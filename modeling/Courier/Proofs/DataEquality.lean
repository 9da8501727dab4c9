import Courier.Proofs.ExactValue
import Mathlib.Data.List.Forall2

/-!
# Equality of values

When the comparison of two values says that they are the same (`Data.same_iff`). Numbers are equal
as numbers, whatever their types, other scalars by what they hold, and collections by their parts,
where the order of a mapping's entries does not matter. The induction is on the first value together
with its items, entries and members.
-/

namespace Courier.Data

/-- How two values come to be equal. Numbers are if they are the same number, whatever their types.
Mappings are if they have equally many entries and the second has, for the name of each entry of the
first, an equal value. -/
inductive Equals : Data → Data → Prop where
  | number {a b : Data} {p : Exact} (ha : a.exactValue? = some p) (hb : b.exactValue? = some p) :
    Equals a b
  | null : Equals .null .null
  | text (s : String) : Equals (.text s) (.text s)
  | brokenText (codes : List Nat) : Equals (.brokenText codes) (.brokenText codes)
  | bytes (bs : List UInt8) : Equals (.bytes bs) (.bytes bs)
  | day (d : Day) : Equals (.day d) (.day d)
  | moment {m n : Moment} (hzone : m.offset.isSome = n.offset.isSome)
      (hinstant : m.instant = n.instant) : Equals (.moment m) (.moment n)
  | list {xs ys : List Data} (h : List.Forall₂ Equals xs ys) : Equals (.list xs) (.list ys)
  | map {xs ys : List (Data × Data)} {found : List Data} (hlength : xs.length = ys.length)
      (hfound : xs.map (fun e => lookup? ys e.1) = found.map some)
      (h : List.Forall₂ Equals (xs.map Prod.snd) found) : Equals (.map xs) (.map ys)
  | set {xs ys found : List Data} (hlength : xs.length = ys.length) (hfound : found ⊆ ys)
      (h : List.Forall₂ Equals xs found) : Equals (.set xs) (.set ys)
  | pair {a b c d : Data} (hfirst : Equals a c) (hsecond : Equals b d) :
      Equals (.pair a b) (.pair c d)

/-- A number is equal to the values that are the same number. -/
theorem sameScalar_of_amount {a : Data} {x : Amount} (h : a.amount? = some x) (b : Data) :
    sameScalar a b = true ↔ ∃ p, a.exactValue? = some p ∧ b.exactValue? = some p := by
  unfold sameScalar exactValue?
  rw [h, Option.bind_some]
  cases hb : b.amount? with
  | none => simp
  | some y =>
    simp only [Option.bind_some, beq_iff_eq]
    rw [x.compare_eq y]
    cases x.exactValue? with
    | none => exact iff_of_false nofun fun ⟨_, hp, _⟩ => nomatch hp
    | some p =>
      cases y.exactValue? with
      | none => exact iff_of_false nofun fun ⟨_, _, hq⟩ => nomatch hq
      | some q =>
        rw [Option.map₂_some_some, Option.some_inj, cmp_eq_eq_iff]
        constructor
        · rintro rfl
          exact ⟨p, rfl, rfl⟩
        · rintro ⟨r, hp, hq⟩
          exact Option.some_inj.1 (hp.trans hq.symm)

/-- Equality of a number is a matter of the numbers. -/
theorem equals_of_amount {a : Data} {x : Amount} (h : a.amount? = some x) (b : Data) :
    Equals a b ↔ ∃ p, a.exactValue? = some p ∧ b.exactValue? = some p := by
  constructor
  · intro heq
    cases heq with
    | number ha hb => exact ⟨_, ha, hb⟩
    | _ => cases h
  · rintro ⟨p, ha, hb⟩
    exact .number ha hb

/-- What is equal to a number is that number. -/
theorem equals_iff_of_exactValue? {a : Data} {p : Exact} (h : a.exactValue? = some p) (b : Data) :
    Equals a b ↔ b.exactValue? = some p := by
  obtain ⟨x, hx, -⟩ := Option.bind_eq_some_iff.1 h
  rw [equals_of_amount hx, h]
  simp

/-- Whether a value holds no others. -/
def isScalar : Data → Bool
  | .list _ | .map _ | .set _ | .pair _ _ => false
  | _ => true

/-- Values that hold no others are the same exactly if they are equal. -/
theorem same_iff_of_isScalar {a : Data} (ha : a.isScalar = true) (b : Data) :
    a.same b = true ↔ Equals a b := by
  have hsame : a.same b = sameScalar a b := by
    cases a with
    | list | map | set | pair => cases ha
    | _ => simp [same]
  rw [hsame]
  cases hx : a.amount? with
  | some x => rw [sameScalar_of_amount hx, equals_of_amount hx]
  | none =>
    constructor
    · intro h
      have hy : b.amount? = none := by
        cases hy : b.amount? with
        | none => rfl
        | some y => simp [sameScalar, hx, hy] at h
      -- two values of different kinds are not the same, and the kinds of numbers are left out
      simp only [sameScalar, hx, hy] at h
      split at h
      · exact .null
      · rw [eq_of_beq h]
        exact .text _
      · rw [eq_of_beq h]
        exact .brokenText _
      · rw [eq_of_beq h]
        exact .bytes _
      · rw [eq_of_beq h]
        exact .day _
      · obtain ⟨hzone, hinstant⟩ := Bool.and_eq_true_iff.1 h
        exact .moment (eq_of_beq hzone) (eq_of_beq hinstant)
      · cases h
    · intro h
      cases h with
      | number hp => simp [exactValue?, hx] at hp
      | moment hzone hinstant => simp [sameScalar, amount?, Moment.same, hzone, hinstant]
      | null => rfl
      | list | map | set | pair => cases ha
      | _ => simp [sameScalar, amount?]

mutual

/-- Values are the same exactly if they are equal. -/
theorem same_iff : ∀ a b : Data, a.same b = true ↔ Equals a b
  | .null, b => same_iff_of_isScalar rfl b
  | .bool _, b => same_iff_of_isScalar rfl b
  | .int _, b => same_iff_of_isScalar rfl b
  | .float _, b => same_iff_of_isScalar rfl b
  | .text _, b => same_iff_of_isScalar rfl b
  | .brokenText _, b => same_iff_of_isScalar rfl b
  | .bytes _, b => same_iff_of_isScalar rfl b
  | .day _, b => same_iff_of_isScalar rfl b
  | .moment _, b => same_iff_of_isScalar rfl b
  | .list xs, b => by
    have hitems := sameItems_iff xs
    constructor
    · intro h
      cases b with
      | list ys => exact .list ((hitems ys).1 (by simpa [same] using h))
      | _ => simp [same] at h
    · intro h
      cases h with
      | number hp => cases hp
      | list h => simpa [same] using (hitems _).2 h
  | .map xs, b => by
    have hentries := sameEntries_iff xs
    constructor
    · intro h
      cases b with
      | map ys =>
        obtain ⟨hlength, h⟩ : xs.length = ys.length ∧ sameEntries xs ys = true := by
          simpa [same] using h
        obtain ⟨found, hfound, h⟩ := (hentries ys).1 h
        exact .map hlength hfound h
      | _ => simp [same] at h
    · intro h
      cases h with
      | number hp => cases hp
      | map hlength hfound h => simp [same, hlength, (hentries _).2 ⟨_, hfound, h⟩]
  | .set xs, b => by
    have hmembers := sameMembers_iff xs
    constructor
    · intro h
      cases b with
      | set ys =>
        obtain ⟨hlength, h⟩ : xs.length = ys.length ∧ sameMembers xs ys = true := by
          simpa [same] using h
        obtain ⟨found, hfound, h⟩ := (hmembers ys).1 h
        exact .set hlength hfound h
      | _ => simp [same] at h
    · intro h
      cases h with
      | number hp => cases hp
      | set hlength hfound h => simp [same, hlength, (hmembers _).2 ⟨_, hfound, h⟩]
  | .pair x y, b => by
    have hfirst := same_iff x
    have hsecond := same_iff y
    constructor
    · intro h
      cases b with
      | pair z w =>
        obtain ⟨hx, hy⟩ : x.same z = true ∧ y.same w = true := by simpa [same] using h
        exact .pair ((hfirst z).1 hx) ((hsecond w).1 hy)
      | _ => simp [same] at h
    · intro h
      cases h with
      | number hp => cases hp
      | pair hx hy => simp [same, (hfirst _).2 hx, (hsecond _).2 hy]

/-- Items are the same exactly if they are equal one by one. -/
theorem sameItems_iff : ∀ xs ys : List Data, sameItems xs ys = true ↔ List.Forall₂ Equals xs ys
  | [], ys => by simp [sameItems]
  | x :: xs, [] => by simp [sameItems]
  | x :: xs, y :: ys => by
    rw [sameItems, Bool.and_eq_true, same_iff x y, sameItems_iff xs ys, List.forall₂_cons]

/-- Entries have counterparts exactly if there is an equal value for each name. -/
theorem sameEntries_iff : ∀ xs ys : List (Data × Data), sameEntries xs ys = true ↔
    ∃ found, xs.map (fun e => lookup? ys e.1) = found.map some ∧
      List.Forall₂ Equals (xs.map Prod.snd) found
  | [], ys => by simp [sameEntries]
  | (k, v) :: xs, ys => by
    have hvalue := same_iff v
    rw [sameEntries, Bool.and_eq_true, sameEntries_iff xs ys, List.map_cons, List.map_cons, lookup?]
    cases ys.find? fun e => same k e.1 with
    | none =>
      refine iff_of_false (by simp) ?_
      rintro ⟨_ | ⟨w, found⟩, hfound, -⟩ <;> cases hfound
    | some e =>
      simp only [hvalue, Option.map_some]
      constructor
      · rintro ⟨hv, found, hfound, h⟩
        exact ⟨e.2 :: found, by rw [hfound, List.map_cons], .cons hv h⟩
      · rintro ⟨_ | ⟨w, found⟩, hfound, h⟩
        · cases hfound
        · obtain ⟨hw, hrest⟩ := List.cons.inj hfound
          obtain ⟨hv, h⟩ := List.forall₂_cons.1 h
          rw [Option.some.inj hw]
          exact ⟨hv, found, hrest, h⟩

/-- Members are there exactly if there is an equal one for each. -/
theorem sameMembers_iff : ∀ xs ys : List Data, sameMembers xs ys = true ↔
    ∃ found ⊆ ys, List.Forall₂ Equals xs found
  | [], ys => by simp [sameMembers]
  | x :: xs, ys => by
    have hmember := same_iff x
    rw [sameMembers, Bool.and_eq_true, sameMembers_iff xs ys, List.any_eq_true]
    simp only [hmember]
    constructor
    · rintro ⟨⟨y, hy, heq⟩, found, hfound, h⟩
      exact ⟨y :: found, List.cons_subset.2 ⟨hy, hfound⟩, .cons heq h⟩
    · rintro ⟨_ | ⟨y, found⟩, hfound, h⟩
      · cases h
      · obtain ⟨hy, hrest⟩ := List.cons_subset.1 hfound
        obtain ⟨heq, h⟩ := List.forall₂_cons.1 h
        exact ⟨⟨y, hy, heq⟩, found, hrest, h⟩

end

end Courier.Data
