import Courier.JsonPath.Find
import Courier.Proofs.Literal

/-!
# What a path leads to

The meaning of a path as a relation between places, apart from the search: `Leads` says where a
path leads, and `Stuck` where it asks for what there is not. The search ends in an error exactly if
the path is stuck, and else finds exactly the places that it leads to (`find_gives`). The induction
is on the path; the combinations of outcomes that the search is made of carry it.
-/

namespace Courier.JsonPath

open Data

mutual

/-- The places of a value and of everything inside it, the outer before the inner. -/
def within (enclosing : List Data) : Data → List Place
  | .list items => ⟨.list items, enclosing⟩ :: withinItems (.list items :: enclosing) items
  | .map entries => ⟨.map entries, enclosing⟩ :: withinEntries (.map entries :: enclosing) entries
  | v => [⟨v, enclosing⟩]

/-- The same for items. -/
def withinItems (enclosing : List Data) : List Data → List Place
  | [] => []
  | x :: rest => within enclosing x ++ withinItems enclosing rest

/-- The same for the values of entries. -/
def withinEntries (enclosing : List Data) : List (Data × Data) → List Place
  | [] => []
  | (_, x) :: rest => within enclosing x ++ withinEntries enclosing rest

end

/-- Whether a path leads from one place to another. -/
def Leads : JsonPath → Place → Place → Prop
  | .root, p, q => q = p.root
  | .this, p, q => q = p
  | .parent, p, q => p.enclosing = q.value :: q.enclosing
  | .all, p, q => q ∈ p.parts
  | .everyItem, p, q => q ∈ p.parts
  | .fields names, p, q => ∃ name ∈ names, q ∈ p.field name
  | .indices ns, p, q => ∃ n ∈ ns, q ∈ p.item n
  | .slice start stop step, p, q => ∃ items, p.value = .list items ∧
      ∃ i ∈ Place.sliceIndices items.length start stop (step.getD 1),
        items[i]?.map p.inside = some q
  | .child a b, p, q => ∃ t, a.Leads p t ∧ b.Leads t q
  | .descendants a b, p, q => ∃ t, a.Leads p t ∧ ∃ u ∈ within t.enclosing t.value, b.Leads u q
  | .union a b, p, q => a.Leads p q ∨ b.Leads p q
  | .intersection _ _, _, _ => False
  | .having a b, p, q => a.Leads p q ∧ ∃ t, b.Leads q t
  | .lacking a b, p, q => a.Leads p q ∧ ¬ ∃ t, b.Leads q t

/-- Whether a path, followed from a place, asks for the parent of the document, for an intersection
or for a slice of a list by steps of zero. -/
def Stuck : JsonPath → Place → Prop
  | .parent, p => p.enclosing = []
  | .slice _ _ step, p => step = some 0 ∧ ∃ items, p.value = .list items
  | .child a b, p => a.Stuck p ∨ ∃ t, a.Leads p t ∧ b.Stuck t
  | .descendants a b, p =>
    a.Stuck p ∨ ∃ t, a.Leads p t ∧ ∃ u ∈ within t.enclosing t.value, b.Stuck u
  | .union a b, p => a.Stuck p ∨ b.Stuck p
  | .intersection _ _, _ => True
  | .having a b, p => a.Stuck p ∨ ∃ t, a.Leads p t ∧ b.Stuck t
  | .lacking a b, p => a.Stuck p ∨ ∃ t, a.Leads p t ∧ b.Stuck t
  | _, _ => False

/-- An outcome of a search that is an error if `stuck` holds, and else the places of `leads`. -/
def Gives (o : Except FindError (List Place)) (stuck : Prop) (leads : Place → Prop) : Prop :=
  (stuck ∧ ∃ e, o = .error e) ∨ ¬ stuck ∧ ∃ places, o = .ok places ∧ ∀ q, q ∈ places ↔ leads q

section Outcomes

variable {o o' : Except FindError (List Place)} {stuck stuck' : Prop} {leads leads' : Place → Prop}
variable {f : Place → Except FindError (List Place)} {stuckAt : Place → Prop}
  {leadsFrom : Place → Place → Prop}

/-- Places are an outcome that is not stuck. -/
theorem gives_ok {places : List Place} (h : ∀ q, q ∈ places ↔ leads q) :
    Gives (.ok places) False leads :=
  .inr ⟨not_false, places, rfl, h⟩

/-- The same outcome in other words. -/
theorem Gives.congr (h : Gives o stuck leads) (hstuck : stuck ↔ stuck')
    (hleads : ∀ q, leads q ↔ leads' q) : Gives o stuck' leads' := by
  obtain ⟨hs, e, he⟩ | ⟨hs, places, hok, hq⟩ := h
  · exact .inl ⟨hstuck.1 hs, e, he⟩
  · exact .inr ⟨fun hs' => hs (hstuck.2 hs'), places, hok, fun q => (hq q).trans (hleads q)⟩

/-- One outcome after another. -/
theorem Gives.append (h : Gives o stuck leads) (h' : Gives o' stuck' leads') :
    Gives (do let left ← o; return left ++ (← o')) (stuck ∨ stuck')
      fun q => leads q ∨ leads' q := by
  obtain ⟨hs, e, rfl⟩ | ⟨hs, places, rfl, hq⟩ := h
  · exact .inl ⟨.inl hs, e, rfl⟩
  · obtain ⟨hs', e, rfl⟩ | ⟨hs', places', rfl, hq'⟩ := h'
    · exact .inl ⟨.inr hs', e, rfl⟩
    · refine .inr ⟨not_or.2 ⟨hs, hs'⟩, places ++ places', rfl, fun q => ?_⟩
      rw [List.mem_append, hq, hq']

/-- The outcomes for several places. -/
theorem gives_gather (h : ∀ p, Gives (f p) (stuckAt p) (leadsFrom p)) (ps : List Place) :
    Gives (gather f ps) (∃ p ∈ ps, stuckAt p) fun q => ∃ p ∈ ps, leadsFrom p q := by
  induction ps with
  | nil => exact (gives_ok fun q => Iff.rfl).congr (by simp) (by simp)
  | cons p rest ih => exact ((h p).append ih).congr (by simp) (by simp)

/-- The outcomes for all places of an outcome. -/
theorem Gives.gather (h : Gives o stuck leads)
    (hf : ∀ p, Gives (f p) (stuckAt p) (leadsFrom p)) :
    Gives (do gather f (← o)) (stuck ∨ ∃ p, leads p ∧ stuckAt p)
      fun q => ∃ p, leads p ∧ leadsFrom p q := by
  obtain ⟨hs, e, rfl⟩ | ⟨hs, places, rfl, hq⟩ := h
  · exact .inl ⟨.inl hs, e, rfl⟩
  · refine (gives_gather hf places).congr ?_ fun q => ?_
    · simp only [hq, hs, false_or]
    · simp only [hq]

/-- An outcome of which only matters whether it has places. -/
theorem Gives.ofIsEmpty (h : Gives o stuck leads) (g : Bool → List Place) :
    Gives (do let found ← o; return g found.isEmpty) stuck
      fun q => (∃ t, leads t) ∧ q ∈ g false ∨ (¬ ∃ t, leads t) ∧ q ∈ g true := by
  obtain ⟨hs, e, rfl⟩ | ⟨hs, places, rfl, hq⟩ := h
  · exact .inl ⟨hs, e, rfl⟩
  · refine .inr ⟨hs, _, rfl, fun q => ?_⟩
    cases places with
    | nil =>
      have hnone : ¬ ∃ t, leads t := fun ⟨t, ht⟩ => List.not_mem_nil ((hq t).2 ht)
      simp [hnone]
    | cons t rest =>
      have hsome : ∃ t, leads t := ⟨t, (hq t).1 List.mem_cons_self⟩
      simp [hsome]

mutual

/-- The outcomes for everything inside a value. -/
theorem gives_everywhere (h : ∀ p, Gives (f p) (stuckAt p) (leadsFrom p))
    (enclosing : List Data) : ∀ v : Data,
      Gives (everywhere f enclosing v) (∃ p ∈ within enclosing v, stuckAt p)
        fun q => ∃ p ∈ within enclosing v, leadsFrom p q
  | .list items => by
    rw [everywhere, within]
    exact ((h _).append (gives_everywhereItems h _ items)).congr (by simp) (by simp)
  | .map entries => by
    rw [everywhere, within]
    exact ((h _).append (gives_everywhereEntries h _ entries)).congr (by simp) (by simp)
  | .null => (h _).congr (by simp [within]) (by simp [within])
  | .bool _ => (h _).congr (by simp [within]) (by simp [within])
  | .int _ => (h _).congr (by simp [within]) (by simp [within])
  | .float _ => (h _).congr (by simp [within]) (by simp [within])
  | .text _ => (h _).congr (by simp [within]) (by simp [within])
  | .brokenText _ => (h _).congr (by simp [within]) (by simp [within])
  | .bytes _ => (h _).congr (by simp [within]) (by simp [within])
  | .set _ => (h _).congr (by simp [within]) (by simp [within])
  | .pair _ _ => (h _).congr (by simp [within]) (by simp [within])
  | .day _ => (h _).congr (by simp [within]) (by simp [within])
  | .moment _ => (h _).congr (by simp [within]) (by simp [within])

/-- The outcomes for everything inside items. -/
theorem gives_everywhereItems (h : ∀ p, Gives (f p) (stuckAt p) (leadsFrom p))
    (enclosing : List Data) : ∀ items : List Data,
      Gives (everywhereItems f enclosing items) (∃ p ∈ withinItems enclosing items, stuckAt p)
        fun q => ∃ p ∈ withinItems enclosing items, leadsFrom p q
  | [] => (gives_ok fun q => Iff.rfl).congr (by simp [withinItems]) (by simp [withinItems])
  | x :: rest => by
    rw [everywhereItems, withinItems]
    exact ((gives_everywhere h _ x).append (gives_everywhereItems h _ rest)).congr
      (by simp only [List.mem_append, or_and_right, exists_or])
      (by simp only [List.mem_append, or_and_right, exists_or, implies_true])

/-- The outcomes for everything inside the values of entries. -/
theorem gives_everywhereEntries (h : ∀ p, Gives (f p) (stuckAt p) (leadsFrom p))
    (enclosing : List Data) : ∀ entries : List (Data × Data),
      Gives (everywhereEntries f enclosing entries)
        (∃ p ∈ withinEntries enclosing entries, stuckAt p)
        fun q => ∃ p ∈ withinEntries enclosing entries, leadsFrom p q
  | [] => (gives_ok fun q => Iff.rfl).congr (by simp [withinEntries]) (by simp [withinEntries])
  | (_, x) :: rest => by
    rw [everywhereEntries, withinEntries]
    exact ((gives_everywhere h _ x).append (gives_everywhereEntries h _ rest)).congr
      (by simp only [List.mem_append, or_and_right, exists_or])
      (by simp only [List.mem_append, or_and_right, exists_or, implies_true])

end

end Outcomes

/-- A slice is stuck on a list by steps of zero, and else gives the items at its indices. -/
theorem gives_slice (p : Place) (start stop step : Option Int) :
    Gives (p.slice start stop step) ((slice start stop step).Stuck p)
      ((slice start stop step).Leads p) := by
  unfold Place.slice
  split
  · rename_i items hvalue
    simp only
    split
    · -- steps that are not given are steps of one
      rename_i hzero
      refine .inl ⟨⟨?_, items, hvalue⟩, _, rfl⟩
      cases step with
      | none => cases hzero
      | some n => rw [show n = 0 from hzero]
    · rename_i hstep
      have hfree : ¬ (slice start stop step).Stuck p := by
        rintro ⟨rfl, _⟩
        exact hstep rfl
      refine .inr ⟨hfree, _, rfl, fun q => ?_⟩
      rw [List.mem_filterMap, Leads]
      constructor
      · exact fun hq => ⟨items, hvalue, hq⟩
      · rintro ⟨items', hvalue', hq⟩
        obtain rfl := Data.list.inj (hvalue.symm.trans hvalue')
        exact hq
  · rename_i hother
    have hlist : ∀ items, p.value ≠ .list items := hother
    have hnone : Gives (.ok []) False fun _ => False := gives_ok (by simp)
    refine hnone.congr ?_ fun q => ?_
    · simp [Stuck, hlist]
    · simp [Leads, hlist]

/-- The search for a path ends in an error exactly if the path is stuck, and else finds exactly the
places that it leads to. -/
theorem find_gives (path : JsonPath) (p : Place) :
    Gives (find path p) (path.Stuck p) (path.Leads p) := by
  induction path generalizing p with
  | root => exact gives_ok (by simp [Leads])
  | this => exact gives_ok (by simp [Leads])
  | parent =>
    unfold find
    split
    · rename_i hnone
      exact .inl ⟨hnone, _, rfl⟩
    · rename_i v rest hsome
      refine .inr ⟨by simp [Stuck, hsome], _, rfl, fun q => ?_⟩
      rw [List.mem_singleton, Leads, hsome]
      obtain ⟨value, enclosing⟩ := q
      simp [eq_comm]
  | all => exact gives_ok (by simp [Leads])
  | everyItem => exact gives_ok (by simp [Leads])
  | fields names => exact gives_ok (by simp [Leads])
  | indices ns => exact gives_ok (by simp [Leads])
  | slice start stop step => exact gives_slice p start stop step
  | child a b iha ihb => exact (iha p).gather ihb
  | descendants a b iha ihb =>
    exact (iha p).gather fun q => gives_everywhere ihb q.enclosing q.value
  | union a b iha ihb => exact (iha p).append (ihb p)
  | intersection a b => exact .inl ⟨trivial, _, rfl⟩
  -- the two conditions only ask whether anything is found
  | having a b iha ihb =>
    have hkeep := fun q => (ihb q).ofIsEmpty fun b => if b then [] else [q]
    exact ((iha p).gather hkeep).congr Iff.rfl fun q => by simp [Leads]
  | lacking a b iha ihb =>
    have hkeep := fun q => (ihb q).ofIsEmpty fun b => if b then [q] else []
    exact ((iha p).gather hkeep).congr Iff.rfl fun q => by simp [Leads]

/-- A search in a document ends in an error exactly if the path is stuck; what it gives is a value
that the path leads to, or nothing if there is none. -/
theorem first?_cases (path : JsonPath) (document : Data) :
    (path.Stuck ⟨document, []⟩ ∧ ∃ e, path.first? document = .error e) ∨
      ¬ path.Stuck ⟨document, []⟩ ∧
        ((∀ q, ¬ path.Leads ⟨document, []⟩ q) ∧ path.first? document = .ok none ∨
          ∃ q, path.Leads ⟨document, []⟩ q ∧ path.first? document = .ok (some q.value)) := by
  unfold first?
  obtain ⟨hstuck, e, he⟩ | ⟨hfree, places, hplaces, hleads⟩ := find_gives path ⟨document, []⟩
  · rw [he]
    exact .inl ⟨hstuck, e, rfl⟩
  · rw [hplaces]
    refine .inr ⟨hfree, ?_⟩
    cases places with
    | nil => exact .inl ⟨fun q hq => List.not_mem_nil ((hleads q).2 hq), rfl⟩
    | cons q rest => exact .inr ⟨q, (hleads q).1 List.mem_cons_self, rfl⟩

/-- Whether the value of a place and all that enclose it can be written. -/
def Place.IsWritable (p : Place) : Prop := ∀ v ∈ p.value :: p.enclosing, v.IsWritable

namespace Place

/-- A value inside a place can be written with the place if it can itself. -/
theorem isWritable_inside {p : Place} {v : Data} (h : p.IsWritable) (hv : v.IsWritable) :
    (p.inside v).IsWritable :=
  List.forall_mem_cons.2 ⟨hv, h⟩

/-- The items of a list can be written with it. -/
theorem isWritable_of_mem_items {p q : Place} {items : List Data} {x : Data} (h : p.IsWritable)
    (hvalue : p.value = .list items) (hx : x ∈ items) (hq : p.inside x = q) : q.IsWritable := by
  subst hq
  have hlist := h _ List.mem_cons_self
  rw [hvalue, isWritable_list_iff] at hlist
  exact isWritable_inside h (hlist x hx)

/-- The values of a mapping can be written with it. -/
theorem isWritable_of_mem_entries {p q : Place} {entries : List (Data × Data)} {e : Data × Data}
    (h : p.IsWritable) (hvalue : p.value = .map entries) (he : e ∈ entries)
    (hq : p.inside e.2 = q) : q.IsWritable := by
  subst hq
  have hmap := h _ List.mem_cons_self
  rw [hvalue, isWritable_map_iff] at hmap
  exact isWritable_inside h (hmap e he).2

/-- The parts of a place can be written with it. -/
theorem isWritable_of_mem_parts {p q : Place} (h : p.IsWritable) (hq : q ∈ p.parts) :
    q.IsWritable := by
  unfold parts at hq
  split at hq
  · rename_i hvalue
    obtain ⟨e, he, hq⟩ := List.mem_map.1 hq
    exact isWritable_of_mem_entries h hvalue he hq
  · rename_i hvalue
    obtain ⟨x, hx, hq⟩ := List.mem_map.1 hq
    exact isWritable_of_mem_items h hvalue hx hq
  · cases hq

/-- The value of a name can be written with its mapping. -/
theorem isWritable_of_mem_field {p q : Place} {name : CodeText} (h : p.IsWritable)
    (hq : q ∈ p.field name) : q.IsWritable := by
  unfold field at hq
  split at hq
  · rename_i entries hvalue
    obtain ⟨v, hv, hq⟩ := Option.map_eq_some_iff.1 (Option.mem_toList.1 hq)
    obtain ⟨e, he, rfl⟩ := Option.map_eq_some_iff.1 hv
    exact isWritable_of_mem_entries h hvalue (List.mem_of_find?_eq_some he) hq
  · cases hq

/-- The item at an index can be written with its list. -/
theorem isWritable_of_mem_item {p q : Place} {n : Int} (h : p.IsWritable) (hq : q ∈ p.item n) :
    q.IsWritable := by
  unfold item at hq
  split at hq
  · rename_i items hvalue
    simp only at hq
    -- wherever an index counts from, what is found is one of the items
    generalize (if n < 0 then n + items.length else n) = i at hq
    split at hq
    · cases hq
    · obtain ⟨x, hx, hq⟩ := Option.map_eq_some_iff.1 (Option.mem_toList.1 hq)
      exact isWritable_of_mem_items h hvalue (List.mem_of_getElem? hx) hq
  · cases hq

/-- The document can be written with any place in it. -/
theorem isWritable_root {p : Place} (h : p.IsWritable) : p.root.IsWritable := by
  -- the document is the outermost of what encloses the place, or the place itself
  have hdocument : p.enclosing.getLast?.getD p.value ∈ p.value :: p.enclosing := by
    cases hlast : p.enclosing.getLast? with
    | none => exact List.mem_cons_self
    | some v => exact List.mem_cons_of_mem _ (List.mem_of_getLast? hlast)
  intro v hv
  rw [List.mem_singleton.1 hv]
  exact h _ hdocument

end Place

mutual

/-- Everything inside a value can be written with it. -/
theorem isWritable_of_mem_within (enclosing : List Data) : ∀ v : Data,
    Place.IsWritable ⟨v, enclosing⟩ → ∀ q ∈ within enclosing v, q.IsWritable
  | .list items => fun h => by
    have hitems := (isWritable_list_iff items).1 (h _ List.mem_cons_self)
    rw [within, List.forall_mem_cons]
    exact ⟨h, isWritable_of_mem_withinItems _ items h hitems⟩
  | .map entries => fun h => by
    have hentries := (isWritable_map_iff entries).1 (h _ List.mem_cons_self)
    rw [within, List.forall_mem_cons]
    exact ⟨h, isWritable_of_mem_withinEntries _ entries h fun e he => (hentries e he).2⟩
  | .null => by simp [within]
  | .bool _ => by simp [within]
  | .int _ => by simp [within]
  | .float _ => by simp [within]
  | .text _ => by simp [within]
  | .brokenText _ => by simp [within]
  | .bytes _ => by simp [within]
  | .set _ => by simp [within]
  | .pair _ _ => by simp [within]
  | .day _ => by simp [within]
  | .moment _ => by simp [within]

/-- Everything inside items can be written with them. -/
theorem isWritable_of_mem_withinItems (enclosing : List Data) : ∀ items : List Data,
    (∀ v ∈ enclosing, v.IsWritable) → (∀ x ∈ items, x.IsWritable) →
      ∀ q ∈ withinItems enclosing items, q.IsWritable
  | [], _, _ => by simp [withinItems]
  | x :: rest, h, hitems => by
    rw [List.forall_mem_cons] at hitems
    rw [withinItems, List.forall_mem_append]
    exact ⟨isWritable_of_mem_within _ x (List.forall_mem_cons.2 ⟨hitems.1, h⟩),
      isWritable_of_mem_withinItems _ rest h hitems.2⟩

/-- Everything inside the values of entries can be written with them. -/
theorem isWritable_of_mem_withinEntries (enclosing : List Data) :
    ∀ entries : List (Data × Data), (∀ v ∈ enclosing, v.IsWritable) →
      (∀ e ∈ entries, e.2.IsWritable) → ∀ q ∈ withinEntries enclosing entries, q.IsWritable
  | [], _, _ => by simp [withinEntries]
  | (k, x) :: rest, h, hentries => by
    rw [List.forall_mem_cons] at hentries
    rw [withinEntries, List.forall_mem_append]
    exact ⟨isWritable_of_mem_within _ x (List.forall_mem_cons.2 ⟨hentries.1, h⟩),
      isWritable_of_mem_withinEntries _ rest h hentries.2⟩

end

/-- What a path leads to can be written with the place that it starts from. -/
theorem isWritable_of_leads (path : JsonPath) {p q : Place} (hp : p.IsWritable)
    (hq : path.Leads p q) : q.IsWritable := by
  induction path generalizing p q with
  | root =>
    rw [show q = p.root from hq]
    exact Place.isWritable_root hp
  | this =>
    rw [show q = p from hq]
    exact hp
  | parent =>
    have hvalues : p.enclosing = q.value :: q.enclosing := hq
    exact fun v hv => hp v (List.mem_cons_of_mem _ (hvalues ▸ hv))
  | all => exact Place.isWritable_of_mem_parts hp hq
  | everyItem => exact Place.isWritable_of_mem_parts hp hq
  | fields names =>
    obtain ⟨name, _, hq⟩ := hq
    exact Place.isWritable_of_mem_field hp hq
  | indices ns =>
    obtain ⟨n, _, hq⟩ := hq
    exact Place.isWritable_of_mem_item hp hq
  | slice start stop step =>
    obtain ⟨items, hvalue, i, _, hq⟩ := hq
    obtain ⟨x, hx, hq⟩ := Option.map_eq_some_iff.1 hq
    exact Place.isWritable_of_mem_items hp hvalue (List.mem_of_getElem? hx) hq
  | child a b iha ihb =>
    obtain ⟨t, ha, hb⟩ := hq
    exact ihb (iha hp ha) hb
  | descendants a b iha ihb =>
    obtain ⟨t, ha, u, hu, hb⟩ := hq
    exact ihb (isWritable_of_mem_within _ _ (iha hp ha) u hu) hb
  | union a b iha ihb =>
    obtain ha | hb := hq
    · exact iha hp ha
    · exact ihb hp hb
  | intersection a b => exact hq.elim
  | having a b iha ihb => exact iha hp hq.1
  | lacking a b iha ihb => exact iha hp hq.1

end Courier.JsonPath
