import Courier.Proofs.FlowTokens

/-!
# The node of a JSON text

The tokens of a JSON text are put together to the node of its tree (`ofText_source`). A token is
left for each call, so that a bound on the calls by the number of tokens is never met; the comma
before an item is taken with that item, which is why it is part of what an item is read from
(`separator`).
-/

namespace Courier.Json

open Yaml (Node Token codes)

/-- The node of a string. -/
def textNode (ps : List Piece) : Node := .scalar .text (ps.map Piece.codeUnit)

mutual

/-- The node of a value. -/
def Tree.node : Tree → Node
  | .literal l => .scalar (Node.scalarTag none true (codes l.source)) (codes l.source)
  | .text ps => textNode ps
  | .emptyList _ => .sequence .list []
  | .list _ items => .sequence .list items.nodes
  | .emptyMap _ => .mapping .map []
  | .map _ members => .mapping .map members.nodes

/-- The nodes of items. -/
def Items.nodes : Items → List Node
  | .last v _ => [v.node]
  | .more v _ _ rest => v.node :: rest.nodes

/-- The nodes of members. -/
def Members.nodes : Members → List (Node × Node)
  | .last name v _ => [(textNode name.pieces, v.node)]
  | .more name v _ _ rest => (textNode name.pieces, v.node) :: rest.nodes

end

/-- Whether a token begins a value. -/
def startsValue : Token → Bool
  | .scalar .. | .flowSequenceStart | .flowMappingStart => true
  | _ => false

/-- The tokens of a value begin with one that begins a value. -/
theorem Tree.exists_token (t : Tree) :
    ∃ u us, t.tokens = u :: us ∧ startsValue u = true := by
  cases t <;> exact ⟨_, _, rfl, rfl⟩

end Courier.Json

namespace Courier.Yaml.Node

open Json (startsValue)

/-! ## Steps -/

section Build

variable {fuel : Nat} {r : List Token} {hs : List (String × String)}
  {as : List (String × Option Node)}

/-- A step that succeeds hands its result and its state to the next. -/
theorem bind_of_ok {α β : Type} {x : Build α} {f : α → Build β} {a : α} {b b' : Builder}
    (h : x b = .ok (a, b')) : (x >>= f) b = f a b' := by
  show (x b >>= fun p => f p.1 p.2) = _
  rw [h]
  rfl

/-- A scalar without a name or a tag is a node. -/
theorem node_scalar (block indentless : Bool) (text : List Nat) (plain : Bool) :
    node block indentless (fuel + 1) ⟨.scalar text plain :: r, hs, as⟩ =
      .ok (.scalar (scalarTag none plain text) text, ⟨r, hs, as⟩) := by
  rw [node]
  rfl

/-- A sequence in brackets is a node. -/
theorem node_sequence (block indentless : Bool) {items : List Node} {b : Builder}
    (h : flowItems true fuel ⟨r, hs, as⟩ = .ok (items, b)) :
    node block indentless (fuel + 1) ⟨.flowSequenceStart :: r, hs, as⟩ =
      .ok (.sequence .list items, b) := by
  rw [node]
  show (flowItems true fuel >>= fun items => closeAnchor none (.sequence .list items))
    ⟨r, hs, as⟩ = _
  rw [bind_of_ok h]
  rfl

/-- A mapping in braces is a node. -/
theorem node_mapping (block indentless : Bool) {entries : List (Node × Node)} {b : Builder}
    (h : flowEntries true fuel ⟨r, hs, as⟩ = .ok (entries, b)) :
    node block indentless (fuel + 1) ⟨.flowMappingStart :: r, hs, as⟩ =
      .ok (.mapping .map entries, b) := by
  rw [node]
  show (flowEntries true fuel >>= fun entries => closeAnchor none (.mapping .map entries))
    ⟨r, hs, as⟩ = _
  rw [bind_of_ok h]
  rfl

/-- A node stands where the next token begins a value. -/
theorem nodeUnless_eq {block indentless : Bool} {ends : List Token} {u : Token}
    (hu : startsValue u = true) (hends : ∀ e ∈ ends, startsValue e = false) :
    nodeUnless block indentless ends (fuel + 1) ⟨u :: r, hs, as⟩ =
      node block indentless fuel ⟨u :: r, hs, as⟩ := by
  have hmem : ¬ ends.contains u = true := by
    rw [List.contains_iff_mem]
    intro hmem
    rw [hends u hmem] at hu
    cases hu
  rw [nodeUnless]
  show (if ends.contains u = true then pure empty else node block indentless fuel : Build Node)
    ⟨u :: r, hs, as⟩ = _
  rw [if_neg hmem]

/-- What separates an item or an entry from the one before. -/
def separator (first : Bool) : List Token := if first then [] else [.flowEntry]

/-- The closing bracket ends a sequence. -/
theorem flowItems_end (first : Bool) :
    flowItems first (fuel + 1) ⟨.flowSequenceEnd :: r, hs, as⟩ = .ok ([], ⟨r, hs, as⟩) := by
  rw [flowItems]
  rfl

/-- The closing brace ends a mapping. -/
theorem flowEntries_end (first : Bool) :
    flowEntries first (fuel + 1) ⟨.flowMappingEnd :: r, hs, as⟩ = .ok ([], ⟨r, hs, as⟩) := by
  rw [flowEntries]
  rfl

/-- An item of a sequence. -/
theorem flowItems_item (first : Bool) {u : Token} (hu : startsValue u = true) {n : Node}
    {ns : List Node} {b b' : Builder}
    (hn : node false false fuel ⟨u :: r, hs, as⟩ = .ok (n, b))
    (hns : flowItems false fuel b = .ok (ns, b')) :
    flowItems first (fuel + 1) ⟨separator first ++ u :: r, hs, as⟩ = .ok (n :: ns, b') := by
  have hitem : (do return (← node false false fuel) :: (← flowItems false fuel) :
      Build (List Node)) ⟨u :: r, hs, as⟩ = .ok (n :: ns, b') := by
    rw [bind_of_ok hn, bind_of_ok hns]
    rfl
  rw [flowItems, ← hitem]
  cases first <;> cases u <;> first | rfl | cases hu

/-- An entry of a mapping. -/
theorem flowEntries_entry (first : Bool) {text : List Nat} {u : Token}
    (hu : startsValue u = true) {v : Node} {es : List (Node × Node)} {b b' : Builder}
    (hv : node false false (fuel + 1) ⟨u :: r, hs, as⟩ = .ok (v, b))
    (hes : flowEntries false (fuel + 2) b = .ok (es, b')) :
    flowEntries first (fuel + 3)
        ⟨separator first ++ .key :: .scalar text false :: .value :: u :: r, hs, as⟩ =
      .ok ((.scalar .text text, v) :: es, b') := by
  have hkey : nodeUnless false false [.value, .flowEntry, .flowMappingEnd] (fuel + 2)
      ⟨.scalar text false :: .value :: u :: r, hs, as⟩ =
      .ok (.scalar .text text, ⟨.value :: u :: r, hs, as⟩) := by
    rw [nodeUnless_eq rfl (by decide), node_scalar]
    rfl
  have hvalue : nodeUnless false false [.flowEntry, .flowMappingEnd] (fuel + 2)
      ⟨u :: r, hs, as⟩ = .ok (v, b) := by
    rw [nodeUnless_eq hu (by decide), hv]
  have hentry : (do
      let k ← nodeUnless false false [.value, .flowEntry, .flowMappingEnd] (fuel + 2)
      drop
      let v ← nodeUnless false false [.flowEntry, .flowMappingEnd] (fuel + 2)
      return (k, v) :: (← flowEntries false (fuel + 2)) : Build (List (Node × Node)))
      ⟨.scalar text false :: .value :: u :: r, hs, as⟩ =
      .ok ((.scalar .text text, v) :: es, b') := by
    have hdrop : drop ⟨.value :: u :: r, hs, as⟩ = .ok ((), ⟨u :: r, hs, as⟩) := rfl
    rw [bind_of_ok hkey, bind_of_ok hdrop, bind_of_ok hvalue, bind_of_ok hes]
    rfl
  rw [flowEntries, ← hentry]
  cases first <;> rfl

end Build

/-! ## Trees -/

section Tokens

variable {hs : List (String × String)} {as : List (String × Option Node)}

mutual

/-- The tokens of a value are put together to its node. -/
theorem node_tokens (t : Json.Tree) (block : Bool) (fuel : Nat) (r : List Token)
    (hfuel : t.tokens.length ≤ fuel) :
    node block false fuel ⟨t.tokens ++ r, hs, as⟩ = .ok (t.node, ⟨r, hs, as⟩) := by
  obtain ⟨u, us, htokens, -⟩ := t.exists_token
  obtain ⟨fuel, rfl⟩ : ∃ n, fuel = n + 1 := by
    rw [htokens, List.length_cons] at hfuel
    exact ⟨fuel - 1, by omega⟩
  clear htokens
  cases t with
  | literal l => exact node_scalar block false (codes l.source) true
  | text ps => exact node_scalar block false (ps.map Json.Piece.codeUnit) false
  | emptyList gap =>
    simp only [Json.Tree.tokens, List.length_cons] at hfuel
    obtain ⟨fuel, rfl⟩ : ∃ n, fuel = n + 1 := ⟨fuel - 1, by omega⟩
    exact node_sequence block false (flowItems_end true)
  | emptyMap gap =>
    simp only [Json.Tree.tokens, List.length_cons] at hfuel
    obtain ⟨fuel, rfl⟩ : ∃ n, fuel = n + 1 := ⟨fuel - 1, by omega⟩
    exact node_mapping block false (flowEntries_end true)
  | list gap is =>
    exact node_sequence block false (flowItems_tokens is true fuel r (Nat.le_of_succ_le_succ hfuel))
  | map gap ms =>
    exact node_mapping block false
      (flowEntries_tokens ms true fuel r (Nat.le_of_succ_le_succ hfuel))

/-- The tokens of items are put together to their nodes. -/
theorem flowItems_tokens (is : Json.Items) (first : Bool) (fuel : Nat) (r : List Token)
    (hfuel : is.tokens.length ≤ fuel) :
    flowItems first fuel ⟨separator first ++ (is.tokens ++ r), hs, as⟩ =
      .ok (is.nodes, ⟨r, hs, as⟩) := by
  cases is with
  | last v before =>
    simp only [Json.Items.tokens, List.length_append, List.length_cons, List.length_nil] at hfuel
    obtain ⟨u, us, htokens, hu⟩ := v.exists_token
    obtain ⟨fuel, rfl⟩ : ∃ n, fuel = n + 2 := by
      rw [htokens, List.length_cons] at hfuel
      exact ⟨fuel - 2, by omega⟩
    have hv := node_tokens v false (fuel + 1) (.flowSequenceEnd :: r) (by omega)
    rw [htokens] at hv
    simp only [Json.Items.tokens, htokens, List.cons_append, List.append_assoc, List.nil_append]
    exact flowItems_item first hu hv (flowItems_end false)
  | more v before behind rest =>
    simp only [Json.Items.tokens, List.length_append, List.length_cons] at hfuel
    obtain ⟨fuel, rfl⟩ : ∃ n, fuel = n + 1 := ⟨fuel - 1, by omega⟩
    obtain ⟨u, us, htokens, hu⟩ := v.exists_token
    have hv := node_tokens v false fuel (.flowEntry :: (rest.tokens ++ r)) (by omega)
    have hrest := flowItems_tokens rest false fuel r (by omega)
    rw [htokens] at hv
    simp only [Json.Items.tokens, htokens, List.cons_append, List.append_assoc]
    exact flowItems_item first hu hv hrest

/-- The tokens of members are put together to their nodes. -/
theorem flowEntries_tokens (ms : Json.Members) (first : Bool) (fuel : Nat) (r : List Token)
    (hfuel : ms.tokens.length ≤ fuel) :
    flowEntries first fuel ⟨separator first ++ (ms.tokens ++ r), hs, as⟩ =
      .ok (ms.nodes, ⟨r, hs, as⟩) := by
  cases ms with
  | last name v before =>
    simp only [Json.Members.tokens, List.length_append, List.length_cons,
      List.length_nil] at hfuel
    obtain ⟨fuel, rfl⟩ : ∃ n, fuel = n + 3 := ⟨fuel - 3, by omega⟩
    obtain ⟨u, us, htokens, hu⟩ := v.exists_token
    have hv := node_tokens v false (fuel + 1) (.flowMappingEnd :: r) (by omega)
    rw [htokens] at hv
    simp only [Json.Members.tokens, htokens, List.cons_append, List.append_assoc, List.nil_append]
    exact flowEntries_entry first hu hv (flowEntries_end false)
  | more name v before behind rest =>
    simp only [Json.Members.tokens, List.length_append, List.length_cons] at hfuel
    obtain ⟨fuel, rfl⟩ : ∃ n, fuel = n + 3 := ⟨fuel - 3, by omega⟩
    obtain ⟨u, us, htokens, hu⟩ := v.exists_token
    have hv := node_tokens v false (fuel + 1) (.flowEntry :: (rest.tokens ++ r)) (by omega)
    have hrest := flowEntries_tokens rest false (fuel + 2) r (by omega)
    rw [htokens] at hv
    simp only [Json.Members.tokens, htokens, List.cons_append, List.append_assoc]
    exact flowEntries_entry first hu hv hrest

end

/-- The tokens of a value alone are a document. -/
theorem document_tokens (t : Json.Tree) :
    document ⟨t.tokens, hs, as⟩ = .ok (some t.node, ⟨[], hs, as⟩) := by
  have hnode : node true false (3 * t.tokens.length + 3) ⟨t.tokens ++ [], hs, as⟩ = _ :=
    node_tokens t true _ [] (by omega)
  rw [List.append_nil] at hnode
  have hhead : atHead ⟨t.tokens, hs, as⟩ = .ok (false, ⟨t.tokens, hs, as⟩) := by
    obtain ⟨u, us, htokens, hu⟩ := t.exists_token
    rw [htokens]
    cases u <;> first | rfl | cases hu
  rw [document]
  show (atHead ⟨t.tokens, hs, as⟩ >>= fun p => _) = _
  rw [hhead]
  show (node true false (3 * t.tokens.length + 3) >>= document.finish) ⟨t.tokens, hs, as⟩ = _
  rw [bind_of_ok hnode]
  rfl

end Tokens

/-- A text whose value is a mapping has the node of its tree. -/
theorem ofText_source {d : Json.Document} {es : List (Data × Data)}
    (hmap : d.root.value = .map es) (hd : d.isSame = true) :
    ofText (d.source Courier.plainBreaks) = .ok (some d.root.node) := by
  rw [ofText, Json.tokens_source hmap hd]
  show (document ⟨d.root.tokens, standardHandles, []⟩ >>= fun p => pure p.1) = _
  rw [document_tokens]
  rfl

end Courier.Yaml.Node
