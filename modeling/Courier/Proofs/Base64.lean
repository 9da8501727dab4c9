import Courier.Text.Base64
import Mathlib.Tactic.Common

/-!
# What base 64 encodes is decoded

Reading undoes writing (`Base64.decode?_encode`). A group of four characters stands for one number,
whose digits are regrouped from six bits to eight, and the two shorter groups at the end stand for
numbers whose low bits are zero. That a digit is read back is a question about sixty-four characters
and is checked for each. Everything that can be read at all is ASCII (`Base64.lt_of_decode?`).
-/

namespace Courier.Text.Base64

/-- The character of a six-bit number has that number. -/
theorem digitValue?_digitChar : ∀ n < 64, digitValue? (digitChar n) = some n := by
  decide

/-- It fills up no group. -/
theorem digitChar_ne_fill : ∀ n < 64, digitChar n ≠ '=' := by
  decide

section Groups

variable {w x y z : Nat} (hw : w < 64) (hx : x < 64)

include hw hx

/-- A whole group is read as three bytes. -/
theorem decode?_group (hy : y < 64) (hz : z < 64) (r : List Char) :
    decode? (digitChar w :: digitChar x :: digitChar y :: digitChar z :: r) =
      (decode? r).map fun rest =>
        UInt8.ofNat ((w * 262144 + x * 4096 + y * 64 + z) / 65536) ::
          UInt8.ofNat ((w * 262144 + x * 4096 + y * 64 + z) / 256 % 256) ::
          UInt8.ofNat ((w * 262144 + x * 4096 + y * 64 + z) % 256) :: rest := by
  rw [decode?]
  · simp only [digitValue?_digitChar w hw, digitValue?_digitChar x hx, digitValue?_digitChar y hy,
      digitValue?_digitChar z hz]
    cases decode? r <;> rfl
  · exact fun _ hfill _ => digitChar_ne_fill z hz hfill
  · exact fun hfill _ => digitChar_ne_fill z hz hfill

/-- A group filled up with one sign is read as two bytes. -/
theorem decode?_two (hy : y < 64) (hfit : (w * 4096 + x * 64 + y) % 4 = 0) :
    decode? [digitChar w, digitChar x, digitChar y, '='] =
      some [UInt8.ofNat ((w * 4096 + x * 64 + y) / 1024),
        UInt8.ofNat ((w * 4096 + x * 64 + y) / 4 % 256)] := by
  rw [decode?]
  · simp only [digitValue?_digitChar w hw, digitValue?_digitChar x hx, digitValue?_digitChar y hy]
    exact if_pos hfit
  · exact fun hfill => digitChar_ne_fill y hy hfill

/-- A group filled up with two signs is read as one byte. -/
theorem decode?_one (hfit : (w * 64 + x) % 16 = 0) :
    decode? [digitChar w, digitChar x, '=', '='] = some [UInt8.ofNat ((w * 64 + x) / 16)] := by
  rw [decode?, digitValue?_digitChar w hw, digitValue?_digitChar x hx]
  exact if_pos hfit

end Groups

/-- What is encoded is decoded. -/
theorem decode?_encode (bs : List UInt8) : decode? (encode bs) = some bs := by
  fun_induction encode bs with
  | case1 a b c r n ih =>
    have ha : a.toNat < 256 := a.toNat_lt
    have hb : b.toNat < 256 := b.toNat_lt
    have hc : c.toNat < 256 := c.toNat_lt
    have hn : n = a.toNat * 65536 + b.toNat * 256 + c.toNat := rfl
    clear_value n
    have hsum : n / 262144 * 262144 + n / 4096 % 64 * 4096 + n / 64 % 64 * 64 + n % 64 = n := by
      omega
    rw [decode?_group (by omega) (by omega) (by omega) (by omega), ih, hsum, Option.map_some,
      show n / 65536 = a.toNat by omega, show n / 256 % 256 = b.toNat by omega,
      show n % 256 = c.toNat by omega, UInt8.ofNat_toNat, UInt8.ofNat_toNat, UInt8.ofNat_toNat]
  | case2 a b n =>
    have ha : a.toNat < 256 := a.toNat_lt
    have hb : b.toNat < 256 := b.toNat_lt
    have hn : n = a.toNat * 1024 + b.toNat * 4 := rfl
    clear_value n
    have hsum : n / 4096 * 4096 + n / 64 % 64 * 64 + n % 64 = n := by omega
    rw [decode?_two (by omega) (by omega) (by omega) (by omega), hsum,
      show n / 1024 = a.toNat by omega, show n / 4 % 256 = b.toNat by omega,
      UInt8.ofNat_toNat, UInt8.ofNat_toNat]
  | case3 a n =>
    have ha : a.toNat < 256 := a.toNat_lt
    have hn : n = a.toNat * 16 := rfl
    clear_value n
    have hsum : n / 64 * 64 + n % 64 = n := by omega
    rw [decode?_one (by omega) (by omega) (by omega), hsum, show n / 16 = a.toNat by omega,
      UInt8.ofNat_toNat]
  | case4 => rfl

/-- A character with a number is ASCII. -/
theorem lt_of_digitValue? {c : Char} {n : Nat} (h : digitValue? c = some n) : c.toNat < 0x80 := by
  have hle : ∀ {d : Char}, c ≤ d → c.toNat ≤ d.toNat := fun hcd => UInt32.le_iff_toNat_le.1 hcd
  unfold digitValue? at h
  split at h
  · rename_i hrange
    exact Nat.lt_of_le_of_lt (hle hrange.2) (by decide)
  split at h
  · rename_i hrange
    exact Nat.lt_of_le_of_lt (hle hrange.2) (by decide)
  split at h
  · rename_i hrange
    exact Nat.lt_of_le_of_lt (hle hrange.2) (by decide)
  split at h
  · subst_vars
    decide
  split at h
  · subst_vars
    decide
  · cases h

/-- Only ASCII is decoded. -/
theorem lt_of_decode? {cs : List Char} {bs : List UInt8} (h : decode? cs = some bs) :
    ∀ c ∈ cs, c.toNat < 0x80 := by
  fun_induction decode? cs generalizing bs with
  | case1 => nofun
  | case2 a b =>
    simp only [Option.bind_eq_bind, Option.bind_eq_some_iff] at h
    obtain ⟨_, ha, _, hb, -⟩ := h
    simp only [List.forall_mem_cons]
    exact ⟨lt_of_digitValue? ha, lt_of_digitValue? hb, by decide, by decide, nofun⟩
  | case3 a b c =>
    simp only [Option.bind_eq_bind, Option.bind_eq_some_iff] at h
    obtain ⟨_, ha, _, hb, _, hc, -⟩ := h
    simp only [List.forall_mem_cons]
    exact ⟨lt_of_digitValue? ha, lt_of_digitValue? hb, lt_of_digitValue? hc, by decide, nofun⟩
  | case4 a b c d r _ _ ih =>
    simp only [Option.bind_eq_bind, Option.bind_eq_some_iff] at h
    obtain ⟨_, ha, _, hb, _, hc, _, hd, rest, hrest, -⟩ := h
    simp only [List.forall_mem_cons]
    exact ⟨lt_of_digitValue? ha, lt_of_digitValue? hb, lt_of_digitValue? hc, lt_of_digitValue? hd,
      ih hrest⟩
  | case5 => cases h

example : encode [0x4D, 0x61, 0x6E, 0x4D, 0x61] = "TWFuTWE=".toList := by decide

end Courier.Text.Base64
