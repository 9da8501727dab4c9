import Courier.Text.Utf8

/-!
# UTF-8 is read back

The bytes of a text decode to the text (`decode?_encode`). The decoder is a machine that holds the
pending character; on the bytes of one character it goes from nothing pending to nothing pending and
yields the character (`piecesFrom_encodeCode`), by the length of the encoding. The lead bytes `E0`,
`ED`, `F0` and `F4` restrict what may follow them. A code point that is neither too small for its
length nor a surrogate nor too great meets the restriction.
-/

namespace Courier.Text.Utf8

/-- A byte that is given as a number below 256 has that number. -/
theorem toNat_ofNat_of_lt {n : Nat} (h : n < 256) : (UInt8.ofNat n).toNat = n := by
  rw [UInt8.toNat_ofNat']
  omega

section Steps

variable {need lo hi code size m : Nat} {b : UInt8} {bs : List UInt8}

/-- A byte that completes the pending character. -/
theorem piecesFrom_last (hb : b.toNat = m) (hlo : lo ≤ m) (hhi : m ≤ hi) :
    piecesFrom (some ⟨1, lo, hi, code, size⟩) (b :: bs) =
      .char (Char.ofNat (code * 64 + m % 64)) :: piecesFrom none bs := by
  rw [piecesFrom, hb, if_pos ⟨hlo, hhi⟩]
  rfl

/-- A byte that continues the pending character. -/
theorem piecesFrom_more (hb : b.toNat = m) (hlo : lo ≤ m) (hhi : m ≤ hi) :
    piecesFrom (some ⟨need + 2, lo, hi, code, size⟩) (b :: bs) =
      piecesFrom (some ⟨need + 1, 0x80, 0xBF, code * 64 + m % 64, size + 1⟩) bs := by
  rw [piecesFrom, hb, if_pos ⟨hlo, hhi⟩]
  simp only
  rw [if_neg (by omega)]
  rfl

/-- A byte that begins a character. -/
theorem piecesFrom_begin {p : Pending} (hb : b.toNat = m) (h : begin m = .inr p) :
    piecesFrom none (b :: bs) = piecesFrom (some p) bs := by
  rw [piecesFrom, hb, h]

end Steps

section Lead

variable {n : Nat}

/-- The lead byte of two. -/
theorem begin_two (hlo : 0x80 ≤ n) (hhi : n < 0x800) :
    begin (0xC0 + n / 64) = .inr ⟨1, 0x80, 0xBF, n / 64, 1⟩ := by
  unfold begin
  rw [if_neg (by omega), if_neg (by omega), if_pos (by omega), Nat.add_sub_cancel_left]

/-- The lead byte of three admits the byte after it, unless the code point is a surrogate. -/
theorem begin_three (hlo : 0x800 ≤ n) (hhi : n < 0x10000) (hs : n < 0xD800 ∨ 0xDFFF < n) :
    ∃ lo hi, begin (0xE0 + n / 4096) = .inr ⟨2, lo, hi, n / 4096, 1⟩ ∧
      lo ≤ 0x80 + n / 64 % 64 ∧ 0x80 + n / 64 % 64 ≤ hi := by
  unfold begin
  rw [if_neg (by omega), if_neg (by omega), if_neg (by omega)]
  -- after `E0` nothing may be too small for three bytes
  by_cases h0 : n / 4096 = 0
  · rw [if_pos (by omega), h0]
    exact ⟨0xA0, 0xBF, rfl, by omega, by omega⟩
  rw [if_neg (by omega)]
  -- after `ED` there may be no surrogate
  by_cases hd : n / 4096 = 0xD
  · rw [if_pos (by omega), hd]
    exact ⟨0x80, 0x9F, rfl, by omega, by omega⟩
  rw [if_neg (by omega), if_pos (by omega), Nat.add_sub_cancel_left]
  exact ⟨0x80, 0xBF, rfl, by omega, by omega⟩

/-- The lead byte of four admits the byte after it. -/
theorem begin_four (hlo : 0x10000 ≤ n) (hhi : n < 0x110000) :
    ∃ lo hi, begin (0xF0 + n / 262144) = .inr ⟨3, lo, hi, n / 262144, 1⟩ ∧
      lo ≤ 0x80 + n / 4096 % 64 ∧ 0x80 + n / 4096 % 64 ≤ hi := by
  unfold begin
  rw [if_neg (by omega), if_neg (by omega), if_neg (by omega), if_neg (by omega),
    if_neg (by omega), if_neg (by omega)]
  -- after `F0` nothing may be too small for four bytes
  by_cases h0 : n / 262144 = 0
  · rw [if_pos (by omega), h0]
    exact ⟨0x90, 0xBF, rfl, by omega, by omega⟩
  rw [if_neg (by omega)]
  -- after `F4` nothing may be too great
  by_cases h4 : n / 262144 = 4
  · rw [if_neg (by omega), if_pos (by omega), h4]
    exact ⟨0x80, 0x8F, rfl, by omega, by omega⟩
  rw [if_pos (by omega), Nat.add_sub_cancel_left]
  exact ⟨0x80, 0xBF, rfl, by omega, by omega⟩

end Lead

/-- The bytes of a character yield the character and leave nothing pending. -/
theorem piecesFrom_encodeCode (c : Char) (bs : List UInt8) :
    piecesFrom none (encodeCode c.toNat ++ bs) = .char c :: piecesFrom none bs := by
  have hvalid : c.toNat < 0xD800 ∨ 0xDFFF < c.toNat ∧ c.toNat < 0x110000 := c.valid
  have hc : Char.ofNat c.toNat = c := Char.ofNat_toNat c
  -- from here on the code point is a number with these two properties
  generalize c.toNat = n at hvalid hc
  have hcont : ∀ k, (UInt8.ofNat (0x80 + k % 64)).toNat = 0x80 + k % 64 :=
    fun k => toNat_ofNat_of_lt (by omega)
  unfold encodeCode
  by_cases h1 : n < 0x80
  · have hb : (UInt8.ofNat n).toNat = n := toNat_ofNat_of_lt (by omega)
    rw [if_pos h1, List.singleton_append, piecesFrom, hb, begin, if_pos h1, hc]
  rw [if_neg h1]
  by_cases h2 : n < 0x800
  · have hlead : (UInt8.ofNat (0xC0 + n / 64)).toNat = 0xC0 + n / 64 :=
      toNat_ofNat_of_lt (by omega)
    have hcode : n / 64 * 64 + (0x80 + n % 64) % 64 = n := by omega
    rw [if_pos h2, List.cons_append, List.singleton_append,
      piecesFrom_begin hlead (begin_two (by omega) h2),
      piecesFrom_last (hcont _) (by omega) (by omega), hcode, hc]
  rw [if_neg h2]
  by_cases h3 : n < 0x10000
  · have hlead : (UInt8.ofNat (0xE0 + n / 4096)).toNat = 0xE0 + n / 4096 :=
      toNat_ofNat_of_lt (by omega)
    obtain ⟨lo, hi, hbegin, hlo, hhi⟩ := begin_three (by omega) h3 (by omega)
    have hcode : (n / 4096 * 64 + (0x80 + n / 64 % 64) % 64) * 64 + (0x80 + n % 64) % 64 = n := by
      omega
    rw [if_pos h3, List.cons_append, List.cons_append, List.singleton_append,
      piecesFrom_begin hlead hbegin, piecesFrom_more (hcont _) hlo hhi,
      piecesFrom_last (hcont _) (by omega) (by omega), hcode, hc]
  have hlead : (UInt8.ofNat (0xF0 + n / 262144)).toNat = 0xF0 + n / 262144 :=
    toNat_ofNat_of_lt (by omega)
  obtain ⟨lo, hi, hbegin, hlo, hhi⟩ := begin_four (n := n) (by omega) (by omega)
  have hcode : ((n / 262144 * 64 + (0x80 + n / 4096 % 64) % 64) * 64 +
      (0x80 + n / 64 % 64) % 64) * 64 + (0x80 + n % 64) % 64 = n := by omega
  rw [if_neg h3, List.cons_append, List.cons_append, List.cons_append, List.singleton_append,
    piecesFrom_begin hlead hbegin, piecesFrom_more (hcont _) hlo hhi,
    piecesFrom_more (hcont _) (by omega) (by omega),
    piecesFrom_last (hcont _) (by omega) (by omega), hcode, hc]

/-- The bytes of characters yield the characters. -/
theorem pieces_encodeChars (cs : List Char) : pieces (encodeChars cs) = cs.map .char := by
  unfold pieces
  induction cs with
  | nil => rfl
  | cons c cs ih =>
    rw [encodeChars, List.flatMap_cons, piecesFrom_encodeCode, ← encodeChars, ih]
    rfl

/-- Pieces that are all characters are those characters. -/
theorem charsOf?_map_char (cs : List Char) : charsOf? (cs.map .char) = some cs := by
  induction cs with
  | nil => rfl
  | cons c cs ih => rw [List.map_cons, charsOf?, ih, Option.map_some]

/-- The bytes of a text decode to the text. -/
theorem decode?_encode (s : String) : decode? (encode s) = some s := by
  rw [decode?, encode, pieces_encodeChars, charsOf?_map_char, Option.map_some, String.ofList_toList]

/-! ## Texts that are empty, and bytes that are no text -/

/-- A character that is pending yields something, whatever follows. -/
theorem piecesFrom_pending_ne_nil (p : Pending) (bs : List UInt8) :
    piecesFrom (some p) bs ≠ [] := by
  induction bs generalizing p with
  | nil => simp [piecesFrom]
  | cons b bs ih =>
    rw [piecesFrom]
    split
    · simp only
      split
      · exact List.cons_ne_nil _ _
      · exact ih _
    · exact List.cons_ne_nil _ _

/-- Only no bytes yield nothing. -/
theorem pieces_eq_nil_iff (bs : List UInt8) : pieces bs = [] ↔ bs = [] := by
  refine ⟨fun h => ?_, fun h => by rw [h]; rfl⟩
  cases bs with
  | nil => rfl
  | cons b bs =>
    unfold pieces at h
    rw [piecesFrom] at h
    split at h
    · exact absurd h (List.cons_ne_nil _ _)
    · exact absurd h (piecesFrom_pending_ne_nil _ bs)

/-- Only no bytes are read as the empty text. -/
theorem decodeLossy_eq_empty_iff (bs : List UInt8) : decodeLossy bs = "" ↔ bs = [] := by
  rw [← pieces_eq_nil_iff, decodeLossy, ← String.toList_eq_nil_iff, String.toList_ofList,
    List.map_eq_nil_iff]

/-- The bytes of a code point are not none. -/
theorem encodeCode_ne_nil (n : Nat) : encodeCode n ≠ [] := by
  unfold encodeCode
  split
  · exact List.cons_ne_nil _ _
  · split
    · exact List.cons_ne_nil _ _
    · split
      · exact List.cons_ne_nil _ _
      · exact List.cons_ne_nil _ _

/-- Pieces are not all characters exactly if there is a fault among them. -/
theorem charsOf?_eq_none_iff (bs : List UInt8) (position : Nat) (ps : List Piece) :
    charsOf? ps = none ↔ firstFault bs position ps ≠ none := by
  induction ps generalizing position with
  | nil => simp [charsOf?, firstFault]
  | cons piece ps ih =>
    cases piece with
    | char c =>
      rw [charsOf?, firstFault, Option.map_eq_none_iff]
      exact ih _
    | fault reason size => simp [charsOf?, firstFault]

/-- Bytes are no text exactly if there is a fault in them. -/
theorem decode?_eq_none_iff (bs : List UInt8) : decode? bs = none ↔ fault? bs ≠ none := by
  rw [decode?, fault?, Option.map_eq_none_iff]
  exact charsOf?_eq_none_iff bs 0 (pieces bs)

end Courier.Text.Utf8
