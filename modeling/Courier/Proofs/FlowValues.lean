import Courier.Proofs.Basic
import Courier.Proofs.FlowNodes

/-!
# The data of a JSON text read as YAML

The node of a JSON text whose parts are the same in both languages has the value of its tree: no
fault is found on any level (`checkLevels_nodes`), and what is built is the value (`build_node`).
So the text is read as the same data (`read_source`). What is inside a value is written with fewer
characters than the value, by which the levels are bounded.
-/

namespace Courier.Json

open Yaml (Node)

/-- Whether a value is a list or a mapping. -/
def Tree.isCollection : Tree → Bool
  | .literal _ | .text _ => false
  | _ => true

/-- The trees of items. -/
def Items.trees : Items → List Tree
  | .last v _ => [v]
  | .more v _ _ rest => v :: rest.trees

/-- The trees of members with the names. -/
def Members.trees : Members → List (List Piece × Tree)
  | .last name v _ => [(name.pieces, v)]
  | .more name v _ _ rest => (name.pieces, v) :: rest.trees

/-- The node of a member. -/
def entryNode (m : List Piece × Tree) : Node × Node := (textNode m.1, m.2.node)

/-- The nodes of items are those of their trees. -/
theorem Items.nodes_eq (is : Items) : is.nodes = is.trees.map Tree.node := by
  cases is with
  | last v before => rfl
  | more v before behind rest =>
    rw [Items.nodes, nodes_eq rest]
    rfl

/-- The nodes of members are those of their names and trees. -/
theorem Members.nodes_eq (ms : Members) : ms.nodes = ms.trees.map entryNode := by
  cases ms with
  | last name v before => rfl
  | more name v before behind rest =>
    rw [Members.nodes, nodes_eq rest]
    rfl

/-- The values of items are those of their trees. -/
theorem Items.values_eq (is : Items) : is.values = is.trees.map Tree.value := by
  cases is with
  | last v before => rfl
  | more v before behind rest =>
    rw [Items.values, values_eq rest]
    rfl

/-- The entries of members are those of their names and trees. -/
theorem Members.entries_eq (ms : Members) :
    ms.entries = ms.trees.map fun m => (pieceValue m.1, m.2.value) := by
  cases ms with
  | last name v before => rfl
  | more name v before behind rest =>
    rw [Members.entries, entries_eq rest]
    rfl

/-- The values directly inside a value. -/
def Tree.children : Tree → List Tree
  | .list _ items => items.trees
  | .map _ members => members.trees.map Prod.snd
  | _ => []

/-- What is written for a value is not empty. -/
theorem Tree.length_pos (t : Tree) (write : List Char → List Char) :
    0 < (t.source write).length := by
  obtain ⟨c, u, hsource, -⟩ := t.exists_head write
  rw [hsource]
  exact Nat.succ_pos u.length

/-- The trees of items are the same in both languages if the items are, and shorter. -/
theorem Items.of_mem_trees {is : Items} (his : is.isSame = true) (write : List Char → List Char)
    {t : Tree} (ht : t ∈ is.trees) :
    t.isSame = true ∧ (t.source write).length < (is.source write).length := by
  cases is with
  | last v before =>
    obtain rfl := List.mem_singleton.1 ht
    simp only [Items.isSame, Bool.and_eq_true] at his
    refine ⟨his.1, ?_⟩
    simp only [Items.source, List.length_append, List.length_singleton]
    omega
  | more v before behind rest =>
    simp only [Items.isSame, Bool.and_eq_true] at his
    obtain ⟨⟨⟨hv, -⟩, -⟩, hrest⟩ := his
    simp only [Items.source, List.length_append, List.length_cons]
    obtain rfl | ht := List.mem_cons.1 ht
    · exact ⟨hv, by omega⟩
    · obtain ⟨hsame, hlength⟩ := of_mem_trees hrest write ht
      exact ⟨hsame, by omega⟩

/-- The trees of members are the same in both languages if the members are, as are their names, and
shorter. -/
theorem Members.of_mem_trees {ms : Members} (hms : ms.isSame = true)
    (write : List Char → List Char) {m : List Piece × Tree} (hm : m ∈ ms.trees) :
    isSameText m.1 = true ∧ m.2.isSame = true ∧
      (m.2.source write).length < (ms.source write).length := by
  cases ms with
  | last name v before =>
    obtain rfl := List.mem_singleton.1 hm
    simp only [Members.isSame, Name.isSame, Bool.and_eq_true] at hms
    obtain ⟨⟨⟨⟨⟨⟨hname, -⟩, -⟩, -⟩, -⟩, hv⟩, -⟩ := hms
    refine ⟨hname, hv, ?_⟩
    simp only [Members.source, List.length_append, List.length_singleton]
    omega
  | more name v before behind rest =>
    simp only [Members.isSame, Name.isSame, Bool.and_eq_true] at hms
    obtain ⟨⟨⟨⟨⟨⟨⟨⟨hname, -⟩, -⟩, -⟩, -⟩, hv⟩, -⟩, -⟩, hrest⟩ := hms
    simp only [Members.source, List.length_append, List.length_cons]
    obtain rfl | hm := List.mem_cons.1 hm
    · refine ⟨hname, hv, ?_⟩
      show (v.source write).length < _
      omega
    · obtain ⟨htext, hsame, hlength⟩ := of_mem_trees hrest write hm
      exact ⟨htext, hsame, by omega⟩

/-- What is inside a value is the same in both languages if the value is, and shorter. -/
theorem Tree.of_mem_children {t c : Tree} (ht : t.isSame = true) (write : List Char → List Char)
    (hc : c ∈ t.children) :
    c.isSame = true ∧ (c.source write).length < (t.source write).length := by
  cases t with
  | literal l => cases hc
  | text ps => cases hc
  | emptyList gap => cases hc
  | emptyMap gap => cases hc
  | list gap is =>
    simp only [Tree.isSame, Bool.and_eq_true] at ht
    obtain ⟨hsame, hlength⟩ := is.of_mem_trees ht.2 write hc
    refine ⟨hsame, ?_⟩
    simp only [Tree.source, List.length_append, List.length_cons]
    omega
  | map gap ms =>
    simp only [Tree.isSame, Bool.and_eq_true] at ht
    obtain ⟨m, hm, rfl⟩ := List.mem_map.1 hc
    obtain ⟨-, hsame, hlength⟩ := ms.of_mem_trees ht.2 write hm
    refine ⟨hsame, ?_⟩
    simp only [Tree.source, List.length_append, List.length_cons]
    omega

end Courier.Json

namespace Courier.Yaml.Node

open Json (Piece entryNode pieceValue isSameText textNode)

/-- A scalar that has a value is built at once. -/
theorem atom?_scalar {tag : Tag} {text : List Nat} {v : Data}
    (hv : scalarValue tag text = .ok v) (fuel : Nat) :
    (Node.scalar tag text).atom? fuel = .ok (some v) := by
  have hcollection : ¬ (Node.scalar tag text).tag.isCollection = true := by
    intro h
    rw [Node.tag] at h
    cases tag <;> cases h <;> cases hv
  rw [atom?, if_neg hcollection, text?]
  · show (scalarValue tag text >>= fun v => pure (some v)) = _
    rw [hv]
    rfl
  · exact nofun

/-- A scalar that has a value is built as it. -/
theorem build_scalar {tag : Tag} {text : List Nat} {v : Data}
    (hv : scalarValue tag text = .ok v) (fuel : Nat) :
    (Node.scalar tag text).build (fuel + 1) = .ok v := by
  rw [build, atom?_scalar hv]
  · rfl
  all_goals exact nofun

/-- The value of a string. -/
theorem scalarValue_text {ps : List Piece} (hps : isSameText ps = true) :
    scalarValue .text (ps.map Piece.codeUnit) = .ok (pieceValue ps) := by
  rw [Json.pieceValue_eq hps]
  rfl

/-- Literals and strings are built at once. -/
theorem atom?_node {t : Json.Tree} (ht : t.isSame = true) (fuel : Nat) :
    t.node.atom? fuel = .ok (if t.isCollection then none else some t.value) := by
  cases t with
  | literal l => exact atom?_scalar (scalarValue_literal l ht) fuel
  | text ps => exact atom?_scalar (scalarValue_text ht) fuel
  | emptyList gap => rfl
  | list gap is => rfl
  | emptyMap gap => rfl
  | map gap ms => rfl

/-- The collections among trees. -/
theorem collectionsAmong_nodes (fuel : Nat) {ts : List Json.Tree}
    (hts : ∀ t ∈ ts, t.isSame = true) :
    collectionsAmong fuel (ts.map Json.Tree.node) =
      .ok ((ts.filter Json.Tree.isCollection).map Json.Tree.node) := by
  induction ts with
  | nil => rfl
  | cons t ts ih =>
    rw [List.forall_mem_cons] at hts
    rw [List.map_cons, collectionsAmong, atom?_node hts.1, ih hts.2]
    cases h : t.isCollection
    · rw [List.filter_cons_of_neg (by simp [h])]
      rfl
    · rw [List.filter_cons_of_pos h]
      rfl

/-- The collections among the values of entries. -/
theorem collectionsOf_nodes (fuel : Nat) {ms : List (List Piece × Json.Tree)}
    (hms : ∀ m ∈ ms, isSameText m.1 = true ∧ m.2.isSame = true) :
    collectionsOf fuel (ms.map entryNode) =
      .ok (((ms.map Prod.snd).filter Json.Tree.isCollection).map Json.Tree.node) := by
  induction ms with
  | nil => rfl
  | cons m ms ih =>
    rw [List.forall_mem_cons] at hms
    rw [List.map_cons, entryNode, collectionsOf, textNode, atom?_scalar (scalarValue_text hms.1.1),
      atom?_node hms.1.2, ih hms.2, List.map_cons]
    cases h : m.2.isCollection
    · rw [List.filter_cons_of_neg (by simp [h])]
      rfl
    · rw [List.filter_cons_of_pos h]
      rfl

/-- Entries whose keys are strings are not merged. -/
theorem merged_nodes (fuel : Nat) (ms : List (List Piece × Json.Tree)) :
    merged (fuel + 1) (ms.map entryNode) =
      .ok (ms.map entryNode) := by
  have hmerge : (ms.map entryNode).filter (fun e => e.1.tag == .merge) = [] := by
    rw [List.filter_map, List.map_eq_nil_iff, List.filter_eq_nil_iff]
    exact fun m _ => Bool.false_ne_true
  have hown : (ms.map entryNode).filter (fun e => e.1.tag != .merge) =
      ms.map entryNode := by
    rw [List.filter_map, List.filter_eq_self.2]
    exact fun m _ => rfl
  rw [merged, hmerge, hown, List.map_map]
  rfl

/-- The collections inside a value. -/
theorem inside_node (fuel : Nat) {t : Json.Tree} (ht : t.isSame = true)
    (hcollection : t.isCollection = true) :
    inside (fuel + 1) t.node =
      .ok ((t.children.filter Json.Tree.isCollection).map Json.Tree.node) := by
  have hchildren : ∀ c ∈ t.children, c.isSame = true :=
    fun c hc => (t.of_mem_children ht id hc).1
  cases t with
  | literal l => cases hcollection
  | text ps => cases hcollection
  | emptyList gap => rfl
  | emptyMap gap => rfl
  | list gap is =>
    rw [Json.Tree.node, is.nodes_eq]
    exact collectionsAmong_nodes (fuel + 1) hchildren
  | map gap ms =>
    simp only [Json.Tree.isSame, Bool.and_eq_true] at ht
    have hms : ∀ m ∈ ms.trees, isSameText m.1 = true ∧ m.2.isSame = true := fun m hm => by
      obtain ⟨htext, hsame, -⟩ := ms.of_mem_trees ht.2 id hm
      exact ⟨htext, hsame⟩
    rw [Json.Tree.node, ms.nodes_eq, inside]
    show (merged (fuel + 1) _ >>= collectionsOf (fuel + 1)) = _
    rw [merged_nodes]
    exact collectionsOf_nodes (fuel + 1) hms

/-- There is no fault on any level. -/
theorem checkLevels_nodes (write : List Char → List Char) (fuel : Nat) {ts : List Json.Tree}
    (hts : ∀ t ∈ ts, t.isSame = true ∧ t.isCollection = true ∧
      (t.source write).length ≤ fuel) :
    checkLevels fuel (ts.map Json.Tree.node) = .ok () := by
  induction fuel generalizing ts with
  | zero =>
    cases ts with
    | nil => rfl
    | cons t ts =>
      obtain ⟨-, -, hlength⟩ := hts t List.mem_cons_self
      exact (Nat.not_lt.2 hlength (t.length_pos write)).elim
  | succ fuel ih =>
    rw [checkLevels]
    split
    · rfl
    · have hnext : (ts.map Json.Tree.node).mapM (inside (fuel + 1)) = _ :=
        mapM_map_eq_ok fun t ht => inside_node fuel (hts t ht).1 (hts t ht).2.1
      rw [hnext]
      show checkLevels fuel (ts.map _).flatten = _
      rw [← List.flatMap_def, ← List.map_flatMap]
      refine ih fun c hc => ?_
      obtain ⟨t, ht, hc⟩ := List.mem_flatMap.1 hc
      obtain ⟨hc, hcollection⟩ := List.mem_filter.1 hc
      obtain ⟨hsame, -, hlength⟩ := hts t ht
      obtain ⟨hsame, hless⟩ := t.of_mem_children hsame write hc
      exact ⟨hsame, hcollection, by omega⟩

/-- The key and the value of an entry. -/
def buildEntry (fuel : Nat) (e : Node × Node) : Except Error (Data × Data) := do
  return (← build fuel e.1, ← build fuel e.2)

/-- A mapping is built entry by entry. -/
theorem build_map (fuel : Nat) {es : List (Node × Node)} {vs : List (Data × Data)}
    (hes : merged (fuel + 1) es = .ok es) (hvs : es.mapM (buildEntry fuel) = .ok vs) :
    (Node.mapping .map es).build (fuel + 1) = .ok (.map (Json.insertAll [] vs)) := by
  have hatom : (Node.mapping .map es).atom? (fuel + 1) = .ok none := rfl
  rw [build, hatom]
  show (merged (fuel + 1) es >>= fun es => es.mapM (buildEntry fuel) >>= fun vs =>
    pure (Data.map (Json.insertAll [] vs))) = _
  rw [hes]
  show (es.mapM (buildEntry fuel) >>= fun vs => pure (Data.map (Json.insertAll [] vs))) = _
  rw [hvs]
  rfl

/-- A list is built item by item. -/
theorem build_list (fuel : Nat) {ns : List Node} {vs : List Data}
    (hvs : ns.mapM (build fuel) = .ok vs) :
    (Node.sequence .list ns).build (fuel + 1) = .ok (.list vs) := by
  have hatom : (Node.sequence .list ns).atom? (fuel + 1) = .ok none := rfl
  rw [build, hatom]
  show (ns.mapM (build fuel) >>= fun vs => pure (Data.list vs)) = _
  rw [hvs]
  rfl

/-- The value of the node of a tree is the value of the tree. -/
theorem build_node (write : List Char → List Char) (fuel : Nat) {t : Json.Tree}
    (ht : t.isSame = true) (hfuel : (t.source write).length ≤ fuel) :
    t.node.build fuel = .ok t.value := by
  induction fuel generalizing t with
  | zero => exact (Nat.not_lt.2 hfuel (t.length_pos write)).elim
  | succ fuel ih =>
    have hchild : ∀ c ∈ t.children, (c.source write).length ≤ fuel ∧
        c.node.build fuel = .ok c.value := fun c hc => by
      obtain ⟨hsame, hless⟩ := t.of_mem_children ht write hc
      exact ⟨by omega, ih hsame (by omega)⟩
    cases t with
    | literal l => exact build_scalar (scalarValue_literal l ht) fuel
    | text ps => exact build_scalar (scalarValue_text ht) fuel
    | emptyList gap => rfl
    | emptyMap gap => rfl
    | list gap is =>
      rw [Json.Tree.node, is.nodes_eq, Json.Tree.value, is.values_eq]
      exact build_list fuel (mapM_map_eq_ok fun c hc => (hchild c hc).2)
    | map gap ms =>
      simp only [Json.Tree.isSame, Bool.and_eq_true] at ht
      rw [Json.Tree.node, ms.nodes_eq, Json.Tree.value, ms.entries_eq]
      refine build_map fuel (merged_nodes fuel ms.trees) (mapM_map_eq_ok fun m hm => ?_)
      obtain ⟨hlength, hv⟩ := hchild m.2 (List.mem_map_of_mem hm)
      obtain ⟨fuel, rfl⟩ : ∃ n, fuel = n + 1 := by
        have hpos := m.2.length_pos write
        exact ⟨fuel - 1, by omega⟩
      rw [buildEntry, entryNode, textNode,
        build_scalar (scalarValue_text (ms.of_mem_trees ht.2 write hm).1), hv]
      rfl

end Courier.Yaml.Node

namespace Courier.Json

/-- A JSON text that is the same in both languages is read as its value. -/
theorem Document.read_source {d : Document} {es : List (Data × Data)}
    (hmap : d.root.value = .map es) (hd : d.isSame = true) :
    Yaml.read (String.ofList (d.source plainBreaks)) = .ok (.map es) := by
  have hnode := Yaml.Node.ofText_source hmap hd
  simp only [Document.isSame, Bool.and_eq_true] at hd
  obtain ⟨⟨⟨-, hroot⟩, -⟩, hallowed⟩ := hd
  have hcollection : d.root.isCollection = true := by
    obtain ⟨gap, h⟩ | ⟨gap, ms, h⟩ := exists_braces hmap <;> rw [h] <;> rfl
  have hlength : (d.root.source plainBreaks).length ≤ (d.source plainBreaks).length + 2 := by
    simp only [Document.source, List.length_append]
    omega
  have hatom := Yaml.Node.atom?_node hroot ((d.source plainBreaks).length + 2)
  rw [hcollection] at hatom
  have hlevels : Yaml.Node.checkLevels ((d.source plainBreaks).length + 2)
      ([d.root].map Tree.node) = .ok () :=
    Yaml.Node.checkLevels_nodes plainBreaks _ fun t ht => by
      rw [List.mem_singleton.1 ht]
      exact ⟨hroot, hcollection, hlength⟩
  have hbuild := Yaml.Node.build_node plainBreaks ((d.source plainBreaks).length + 2) hroot hlength
  rw [hmap] at hbuild
  rw [List.map_singleton] at hlevels
  rw [Yaml.read]
  simp only [String.toList_ofList, hallowed, hnode, bind, Except.bind, hatom, hlevels, hbuild]
  rfl

end Courier.Json
