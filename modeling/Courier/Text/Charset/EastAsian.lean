import Courier.Text.Charset.Japanese
import Courier.Text.Charset.JapaneseSupplement
import Courier.Text.Charset.Korean
import Courier.Text.Charset.SimplifiedChinese
import Courier.Text.Charset.SingleByte
import Courier.Text.Charset.TraditionalChinese

/-!
# East Asian character sets

Sets in which a character is one, two or four bytes. Most are ASCII below 128 and have a first byte
above for the rest; two are ASCII throughout and switch between single bytes and pairs by sequences
of their own. What is no character gives the replacement character, as does the end of a text within
a character.
-/

namespace Courier.Text.Charset

/-- An East Asian set. -/
inductive EastAsian where
  | japanesePairs
  | japaneseSystem
  | japaneseHigh
  | japaneseSwitched
  | koreanHigh
  | koreanSystem
  | simplifiedHigh
  | simplifiedWide
  | simplifiedFull
  | simplifiedSwitched
  | traditionalPairs
  | traditionalSystem
  deriving DecidableEq, Repr

namespace EastAsian

/-- The sets with their names. -/
def names : List (String × EastAsian) :=
  [("shift_jis csshiftjis shiftjis sjis s_jis x_mac_japanese", .japanesePairs),
    ("cp932 932 ms932 mskanji ms_kanji", .japaneseSystem),
    ("euc_jp eucjp ujis u_jis", .japaneseHigh),
    ("iso2022_jp csiso2022jp iso2022jp iso_2022_jp", .japaneseSwitched),
    ("euc_kr euckr korean ksc5601 ks_c_5601 ks_c_5601_1987 ksx1001 ks_x_1001 x_mac_korean",
      .koreanHigh),
    ("cp949 949 ms949 uhc", .koreanSystem),
    ("gb2312 chinese csiso58gb231280 euc_cn euccn eucgb2312_cn gb2312_1980 gb2312_80 iso_ir_58
      x_mac_simp_chinese", .simplifiedHigh),
    ("gbk 936 cp936 ms936", .simplifiedWide),
    ("gb18030 gb18030_2000", .simplifiedFull),
    ("hz hzgb hz_gb hz_gb_2312", .simplifiedSwitched),
    ("big5 big5_tw csbig5 x_mac_trad_chinese", .traditionalPairs),
    ("cp950 950 ms950", .traditionalSystem)]

/-! ## Steps -/

/-- What bytes that switch have been switched to. -/
inductive Mode where
  | single
  /-- Single bytes, two of which have another meaning than in ASCII. -/
  | roman
  | pairs
  /-- Bytes that are passed on up to a capital letter, and the mode after them. -/
  | passing (after : Mode)
  deriving DecidableEq, Repr

/-- What stands at the beginning of bytes: code points, how many bytes they take, and the mode after
them. -/
structure Step where
  codes : List Nat
  size : Nat
  mode : Mode

/-- A character. -/
def char (mode : Mode) (n size : Nat) : Step := ⟨[n], size, mode⟩

/-- No character; some bytes are passed over. -/
def wrong (mode : Mode) (size : Nat) : Step := ⟨[replacement.toNat], size, mode⟩

/-- The code points of bytes, the first of which is `b`; a step that takes too much takes all. -/
def decodeWith (read : Mode → Nat → List Nat → Step) : Nat → Mode → List Nat → List Nat
  | fuel + 1, mode, b :: rest =>
    let s := read mode b rest
    s.codes ++ decodeWith read fuel s.mode ((b :: rest).drop s.size)
  | _, _, _ => []

/-- A character that `find` looks up by its two bytes. -/
def pair (find : Nat → Nat → Option Nat) (mode : Mode) (b : Nat) (rest : List Nat) : Step :=
  match rest with
  | [] => wrong mode 1
  | c :: _ =>
    match find b c with
    | some n => char mode n 2
    | none => wrong mode 1

/-- A set that is ASCII below 128 and has pairs above. -/
def asciiOr (find : Nat → Nat → Option Nat) (mode : Mode) (b : Nat) (rest : List Nat) : Step :=
  if b < 0x80 then char mode b 1 else pair find mode b rest

/-! ## Pairs -/

/-- The number of a pair in rows of 94, both bytes of which begin at `least`. -/
def row94? (least b c : Nat) : Option Nat :=
  if least ≤ b ∧ b < least + 94 ∧ least ≤ c ∧ c < least + 94 then
    some ((b - least) * 94 + (c - least))
  else none

/-- A pair of a grid of 94 columns. -/
def high? (g : Grid) (b c : Nat) : Option Nat := (row94? 0xA1 b c).bind g.get?

/-- The number of a Japanese pair: each first byte has two rows of 94. -/
def japaneseNumber? (b c : Nat) : Option Nat :=
  if (0x81 ≤ b ∧ b ≤ 0x9F ∨ 0xE0 ≤ b ∧ b ≤ 0xFC) ∧ 0x40 ≤ c ∧ c ≤ 0xFC ∧ c ≠ 0x7F then
    some ((if b < 0xE0 then b - 0x81 else b - 0xC1) * 188 +
      (if c < 0x7F then c - 0x40 else c - 0x41))
  else none

/-- A Japanese pair. -/
def japanesePair? (b c : Nat) : Option Nat := (japaneseNumber? b c).bind japanese.get?

/-- The first number of the characters that users define. -/
def japaneseOwn : Nat := 94 * 94

/-- A Japanese pair with what one maker adds, and with the characters that users define. -/
def japaneseSystemPair? (b c : Nat) : Option Nat := do
  let n ← japaneseNumber? b c
  match japaneseAdded.get? n with
  | some code => some code
  | none =>
    if n < japaneseOwn then japanese.get? n
    else if n < japaneseOwn + 10 * 188 then some (0xE000 + (n - japaneseOwn))
    else none

/-- The syllables that are not among the common ones, in order. -/
def rareSyllables : Array Nat :=
  let common := korean.cells.foldl (fun seen c =>
    if 0xAC00 ≤ c.toNat ∧ c.toNat < 0xAC00 + 11172 then seen.setIfInBounds (c.toNat - 0xAC00) true
    else seen) (Array.replicate 11172 false)
  (Array.range 11172).filterMap fun i =>
    if common.getD i false then none else some (0xAC00 + i)

/-- Where a second byte stands among the letters and the bytes above 128. -/
def koreanColumn? (c : Nat) : Option Nat :=
  if 0x41 ≤ c ∧ c ≤ 0x5A then some (c - 0x41)
  else if 0x61 ≤ c ∧ c ≤ 0x7A then some (c - 0x61 + 26)
  else if 0x81 ≤ c ∧ c ≤ 0xFE then some (c - 0x81 + 52)
  else none

/-- A pair for a rare syllable: rows of 178, and of 84 where the rest of the row is taken. -/
def rarePair? (b c : Nat) : Option Nat := do
  let column ← koreanColumn? c
  if 0x81 ≤ b ∧ b ≤ 0xA0 then rareSyllables[(b - 0x81) * 178 + column]?
  else if 0xA1 ≤ b ∧ b ≤ 0xC6 ∧ column < 84 then
    rareSyllables[32 * 178 + (b - 0xA1) * 84 + column]?
  else none

/-- A Korean pair of all syllables. -/
def koreanSystemPair? (b c : Nat) : Option Nat :=
  (high? korean b c).orElse fun _ => rarePair? b c

/-- Where a second byte stands among those that are no controls. -/
def wideColumn? (c : Nat) : Option Nat :=
  if 0x40 ≤ c ∧ c ≤ 0x7E then some (c - 0x40)
  else if 0x80 ≤ c ∧ c ≤ 0xFE then some (c - 0x41)
  else none

/-- The ideographs that are not among the simplified characters, in order. -/
def otherIdeographs : Array Nat :=
  let known := simplified.cells.foldl (fun seen c =>
    if 0x4E00 ≤ c.toNat ∧ c.toNat ≤ 0x9FA5 then seen.setIfInBounds (c.toNat - 0x4E00) true
    else seen) (Array.replicate 20902 false)
  (Array.range 20902).filterMap fun i =>
    if known.getD i false then none else some (0x4E00 + i)

/-- A pair for one of the other ideographs: rows of 190, later of 96. -/
def ideographPair? (b column : Nat) : Option Nat :=
  if 0x81 ≤ b ∧ b ≤ 0xA0 then otherIdeographs[(b - 0x81) * 190 + column]?
  else if 0xAA ≤ b ∧ b ≤ 0xFE ∧ column < 96 then
    otherIdeographs[32 * 190 + (b - 0xAA) * 96 + column]?
  else none

/-- A Chinese pair of all ideographs. -/
def widePair? (b c : Nat) : Option Nat := do
  let column ← wideColumn? c
  if b < 0x81 ∨ 0xFE < b then none
  else
    (simplifiedAdded.get? ((b - 0x81) * 190 + column)).orElse fun _ =>
      (high? simplified b c).orElse fun _ => ideographPair? b column

/-- Where the characters begin that users define, in one of the three areas for them. -/
def ownPair? (b column : Nat) : Option Nat :=
  if 0xAA ≤ b ∧ b ≤ 0xAF ∧ 96 ≤ column then some (0xE000 + (b - 0xAA) * 94 + (column - 96))
  else if 0xF8 ≤ b ∧ b ≤ 0xFE ∧ 96 ≤ column then some (0xE234 + (b - 0xF8) * 94 + (column - 96))
  else if 0xA1 ≤ b ∧ b ≤ 0xA7 ∧ column < 96 then some (0xE4C6 + (b - 0xA1) * 96 + column)
  else none

/-- The pairs that have no character and are in no area for users, in order. -/
def sparePairs : Array Nat :=
  (Array.range (126 * 190)).filter fun n =>
    let b := 0x81 + n / 190
    let column := n % 190
    let c := if column < 63 then column + 0x40 else column + 0x41
    (widePair? b c).isNone && (ownPair? b column).isNone

/-- A Chinese pair of all characters. The spare ones are for private use but for the last added. -/
def fullPair? (b c : Nat) : Option Nat :=
  (widePair? b c).orElse fun _ => do
    let column ← wideColumn? c
    if b < 0x81 ∨ 0xFE < b then none
    else
      let n := (b - 0x81) * 190 + column
      (simplifiedLater.get? n).orElse fun _ => (ownPair? b column).orElse fun _ =>
        (sparePairs.idxOf? n).map fun i => 0xE766 + i

/-- The first code points that no pair stands for, in order. -/
def unpaired : Array Nat :=
  let paired := (Array.range (126 * 190)).foldl (fun seen n =>
    let column := n % 190
    match fullPair? (0x81 + n / 190) (if column < 63 then column + 0x40 else column + 0x41) with
    | some code => seen.setIfInBounds code true
    | none => seen) (Array.replicate 0x10000 false)
  (Array.range 0x10000).filter fun code =>
    0x80 ≤ code && !(0xD800 ≤ code && code < 0xE000) && !paired.getD code false

/-- Four bytes: the first code points without a pair, and those beyond the first 65536. -/
def four? (a b c d : Nat) : Option Nat :=
  if 0x81 ≤ a ∧ a ≤ 0xFE ∧ 0x30 ≤ b ∧ b ≤ 0x39 ∧ 0x81 ≤ c ∧ c ≤ 0xFE ∧ 0x30 ≤ d ∧ d ≤ 0x39 then
    let n := (((a - 0x81) * 10 + (b - 0x30)) * 126 + (c - 0x81)) * 10 + (d - 0x30)
    if a < 0x85 then unpaired[n]?
    else if 0x90 ≤ a ∧ n < 189000 + 0x100000 then some (0x10000 + (n - 189000))
    else none
  else none

/-- The number of a traditional Chinese pair: rows of 157. -/
def traditionalNumber? (b c : Nat) : Option Nat :=
  if b < 0xA1 ∨ 0xFE < b then none
  else if 0x40 ≤ c ∧ c ≤ 0x7E then some ((b - 0xA1) * 157 + (c - 0x40))
  else if 0xA1 ≤ c ∧ c ≤ 0xFE then some ((b - 0xA1) * 157 + (c - 0xA1 + 63))
  else none

/-- A traditional Chinese pair. -/
def traditionalPair? (b c : Nat) : Option Nat := (traditionalNumber? b c).bind traditional.get?

/-- A traditional Chinese pair with what one maker adds. -/
def traditionalSystemPair? (b c : Nat) : Option Nat := do
  let n ← traditionalNumber? b c
  (traditionalAdded.get? n).orElse fun _ => traditional.get? n

/-! ## Reading -/

/-- The half-width syllable of a byte. -/
def halfWidth? (b : Nat) : Option Nat :=
  if 0xA1 ≤ b ∧ b ≤ 0xDF then some (0xFEC0 + b) else none

/-- Japanese in ASCII, half-width syllables and pairs. -/
def readJapanesePairs (mode : Mode) (b : Nat) (rest : List Nat) : Step :=
  if b < 0x80 then char mode b 1
  else
    match halfWidth? b with
    | some n => char mode n 1
    | none =>
      if 0x81 ≤ b ∧ b ≤ 0x9F ∨ 0xE0 ≤ b ∧ b ≤ 0xFC then pair japanesePair? mode b rest
      else wrong mode 1

/-- The same with what one maker adds. -/
def readJapaneseSystem (mode : Mode) (b : Nat) (rest : List Nat) : Step :=
  if b ≤ 0x80 then char mode b 1
  else if b = 0xA0 then char mode 0xF8F0 1
  else if 0xFD ≤ b then char mode (0xF8F1 + (b - 0xFD)) 1
  else
    match halfWidth? b with
    | some n => char mode n 1
    | none => pair japaneseSystemPair? mode b rest

/-- Japanese with both bytes of a pair above 128, half-width syllables behind one byte, and the
supplement behind another. -/
def readJapaneseHigh (mode : Mode) (b : Nat) (rest : List Nat) : Step :=
  if b = 0x8E then pair (fun _ c => halfWidth? c) mode b rest
  else if b = 0x8F then
    match rest with
    | c :: d :: _ =>
      match high? japaneseSupplement c d with
      | some n => char mode n 3
      | none => wrong mode 1
    | _ => wrong mode 3
  else asciiOr (high? japanese) mode b rest

/-- The first, the middle and the last letter of a syllable by their bytes; the last may be left
out. -/
def composedSyllable? (first middle last : Nat) : Option Nat := do
  let firsts := [0, 1, 30, 2, 30, 30, 3, 4, 5, 30, 30, 30, 30, 30, 30, 30, 6, 7, 8, 30, 9, 10, 11,
    12, 13, 14, 15, 16, 17, 18]
  let lasts := [1, 2, 3, 4, 5, 6, 7, 30, 8, 9, 10, 11, 12, 13, 14, 15, 16, 17, 30, 18, 19, 20, 21,
    22, 30, 23, 24, 25, 26, 27]
  let i ← if 0xA1 ≤ first then firsts[first - 0xA1]? else none
  let j ← if 0xBF ≤ middle ∧ middle ≤ 0xD3 then some (middle - 0xBF) else none
  let k ← if last = 0xD4 then some 0 else if 0xA1 ≤ last then lasts[last - 0xA1]? else none
  if i = 30 ∨ k = 30 then none else some (0xAC00 + i * 588 + j * 28 + k)

/-- Korean; a filler begins a syllable that is put together from its letters. -/
def readKoreanHigh (mode : Mode) (b : Nat) (rest : List Nat) : Step :=
  match b, rest with
  | 0xA4, 0xD4 :: letters =>
    match letters with
    | m :: first :: n :: middle :: o :: last :: _ =>
      let letters := m = 0xA4 ∧ n = 0xA4 ∧ o = 0xA4
      match if letters then composedSyllable? first middle last else none with
      | some code => char mode code 8
      | none => wrong mode 1
    | _ => wrong mode 8
  | _, _ => asciiOr (high? korean) mode b rest

/-- Chinese of one, two and four bytes. -/
def readSimplifiedFull (mode : Mode) (b : Nat) (rest : List Nat) : Step :=
  if b < 0x80 then char mode b 1
  else
    match rest with
    | [] => wrong mode 1
    | c :: more =>
      if 0x30 ≤ c ∧ c ≤ 0x39 then
        match more with
        | d :: e :: _ =>
          match four? b c d e with
          | some n => char mode n 4
          | none => wrong mode 1
        | _ => wrong mode 4
      else pair fullPair? mode b rest

/-- Chinese that switches by a tilde and a brace. -/
def readSimplifiedSwitched (mode : Mode) (b : Nat) (rest : List Nat) : Step :=
  if b = 0x7E then
    match rest with
    | [] => wrong mode 1
    | c :: _ =>
      if c = 0x7E ∧ mode = .single then char mode 0x7E 2
      else if c = 0x7B ∧ mode = .single then ⟨[], 2, .pairs⟩
      else if c = 0x0A ∧ mode = .single then ⟨[], 2, mode⟩
      else if c = 0x7D ∧ mode = .pairs then ⟨[], 2, .single⟩
      else wrong mode 1
  else if 0x80 ≤ b then wrong mode 1
  else if mode = .single then char mode b 1
  else pair (fun b c => (row94? 0x21 b c).bind simplified.get?) mode b rest

/-- Whether a byte ends a sequence that switches. -/
def endsSequence (b : Nat) : Bool := b == 0x40 || (0x41 ≤ b && b ≤ 0x5A)

/-- How long a sequence is that switches, without its first byte; none where it breaks off. One
sequence has another one as its beginning. -/
def sequenceLength? : Nat → List Nat → Option Nat
  | 0, _ => some 0
  | _, [] => none
  | fuel + 1, b :: rest =>
    if endsSequence b then some 1
    else
      match b, rest with
      | 0x26, 0x40 :: _ :: more => (sequenceLength? (fuel - 2) more).map fun n =>
        if n = 0 then 0 else n + 3
      | _, _ => (sequenceLength? fuel rest).map fun n => if n = 0 then 0 else n + 1

/-- The mode that a sequence switches to; none where there is none. -/
def switchedTo? (mode : Mode) (letters : List Nat) : Option Mode :=
  let single (target : Mode) (place : Nat) : Option Mode :=
    if place = 0x28 then some target else if place = 0x29 then some mode else none
  match letters with
  | [0x24, b] => if b = 0x40 ∨ b = 0x42 then some .pairs else none
  | [place, 0x42] => single .single place
  | [place, 0x4A] => single .roman place
  | [0x24, place, b] => if b = 0x40 ∨ b = 0x42 then single .pairs place else none
  | [0x26, 0x40, 0x1B, 0x24, 0x42] => some .pairs
  | _ => none

/-- Japanese that switches by sequences. -/
def readJapaneseSwitched (mode : Mode) (b : Nat) (rest : List Nat) : Step :=
  match mode with
  | .passing after => char (if endsSequence b then after else mode) b 1
  | _ =>
    if b = 0x1B then
      match rest with
      | [] => wrong mode 1
      | c :: _ =>
        if [0x28, 0x29, 0x24, 0x2E, 0x26].contains c then
          match sequenceLength? 15 rest with
          | none => wrong mode (rest.length + 1)
          | some 0 => wrong mode 1
          | some n =>
            match switchedTo? mode (rest.take n) with
            | some next => ⟨[], n + 1, next⟩
            | none => wrong mode (n + 1)
        else char (.passing mode) b 1
    else if b < 0x20 then char mode b 1
    else if 0x80 ≤ b then wrong mode 1
    else
      match mode with
      | .pairs =>
        match rest with
        | [] => wrong mode 1
        | c :: _ =>
          match (row94? 0x21 b c).bind japanese.get? with
          | some n => char mode n 2
          | none => wrong mode 2
      | .roman => char mode (if b = 0x5C then 0xA5 else if b = 0x7E then 0x203E else b) 1
      | _ => char mode b 1

/-- How the bytes of a set are read. -/
def read : EastAsian → Mode → Nat → List Nat → Step
  | japanesePairs => readJapanesePairs
  | japaneseSystem => readJapaneseSystem
  | japaneseHigh => readJapaneseHigh
  | japaneseSwitched => readJapaneseSwitched
  | koreanHigh => readKoreanHigh
  | koreanSystem => asciiOr koreanSystemPair?
  | simplifiedHigh => asciiOr (high? simplified)
  | simplifiedWide => asciiOr widePair?
  | simplifiedFull => readSimplifiedFull
  | simplifiedSwitched => readSimplifiedSwitched
  | traditionalPairs => asciiOr traditionalPair?
  | traditionalSystem => asciiOr traditionalSystemPair?

/-- The code points of bytes. -/
def decode (set : EastAsian) (bytes : List UInt8) : List Nat :=
  decodeWith set.read bytes.length .single (bytes.map UInt8.toNat)

end EastAsian

end Courier.Text.Charset
