import Courier.Command.Send
import Courier.Proofs.JsonWriter
import Courier.Proofs.NormalForm

/-!
# Printed responses are read back

The JSON text of a response, as `send` prints it and with any other indentation, is read as the same
response (`Response.read_printed`), so the text says everything about the response. The mapping of a
response is a value that JSON has: no name stands in it twice, because no header has two values.
-/

namespace Courier

open Schema

namespace Data

/-- Entries whose names are distinct texts have no name twice. -/
theorem pairwise_texts (entries : List (String × Data)) (h : (entries.map Prod.fst).Nodup) :
    (entries.map fun e => (Data.text e.1, e.2)).Pairwise fun e f => f.1.same e.1 = false := by
  rw [List.pairwise_map]
  refine (List.pairwise_map.1 h).imp fun {e f} hne => ?_
  rw [Bool.eq_false_iff, ne_eq, same_text_iff, Data.text.injEq]
  exact hne

/-- A mapping from texts to texts is a value that JSON has, if its names are distinct. -/
theorem isJson_texts {texts : List (String × String)} (h : (texts.map Prod.fst).Nodup) :
    (Data.map (texts.map fun t => (.text t.1, .text t.2))).IsJson := by
  constructor
  · have hentries := pairwise_texts (texts.map fun t => (t.1, .text t.2)) (by rwa [List.map_map])
    rwa [List.map_map] at hentries
  · clear h
    induction texts with
    | nil => trivial
    | cons t rest ih => exact ⟨⟨t.1, rfl⟩, trivial, ih⟩

end Data

namespace Response

/-- Whether a response keeps the rules on its fields, with integers of few enough digits to be
written. -/
structure IsWritable (r : Response) : Prop extends r.IsWellFormed where
  time_digits : isWritable r.time = true
  size_digits : isWritable r.size = true

/-- The mapping of such a response is a value that JSON has. -/
theorem IsWritable.isJson_dump {r : Response} (h : r.IsWritable) : r.dump.IsJson := by
  have hstatus : isWritable r.status = true := by
    have hsmall : r.status.natAbs < 10 ^ 5 := by
      have hmost : r.status ≤ 65535 := h.status.2
      have hleast := h.status.1
      omega
    -- For any number of digits, so that the power of ten is not computed.
    have hbound : ∀ most, 5 ≤ most → r.status.natAbs < Nat.pow 10 most := fun most hmost =>
      Nat.lt_of_lt_of_le hsmall (Nat.pow_le_pow_right (by decide) hmost)
    exact decide_eq_true (hbound maxDigits (by decide))
  have hnames := Data.pairwise_texts [("status", .int r.status), ("statusText", .text r.statusText),
    ("headers", .map (r.headers.map fun h => (.text h.1, .text h.2))), ("body", .text r.body),
    ("time", .int r.time), ("size", .int r.size)] (by simp)
  exact ⟨hnames, ⟨_, rfl⟩, hstatus, ⟨_, rfl⟩, trivial, ⟨_, rfl⟩, Data.isJson_texts h.headers,
    ⟨_, rfl⟩, trivial, ⟨_, rfl⟩, h.time_digits, ⟨_, rfl⟩, h.size_digits, trivial⟩

/-- The text of a response is read back as the response, with any indentation and on one line. So no
other response is printed as the same text. -/
theorem read_printed {r : Response} (h : r.IsWritable) (indent : Option Nat) :
    (∃ v, Json.read (Json.write indent r.dump) = .ok v ∧ read v = .accepted r) ∧
      ∀ s : Response, s.IsWritable → Command.responseText s = Command.responseText r → s = r := by
  have hback : ∀ {r : Response} (indent : Option Nat), r.IsWritable →
      Json.read (Json.write indent r.dump) = .ok r.dump :=
    fun indent hr => Json.read_write indent hr.isJson_dump
  refine ⟨⟨r.dump, hback indent h, read_dump h.toIsWellFormed⟩, ?_⟩
  intro s hs heq
  -- Both are read back from the same text.
  have hdump : s.dump = r.dump := by
    have hboth := congrArg Json.read heq
    rw [Command.responseText, Command.responseText, hback (some 2) hs, hback (some 2) h] at hboth
    exact Except.ok.inj hboth
  have hread := read_dump hs.toIsWellFormed
  rw [hdump, read_dump h.toIsWellFormed] at hread
  exact (Check.accepted.inj hread).symm

/-- A response with a header and a body that need escapes. -/
def quotedResponse : Response :=
  ⟨200, "OK", [("x-\"quoted\"", "é")], "a\\b\"\n\x01\x7f😀", 12, 12⟩

/-- `read_printed` at a response with escapes. -/
theorem read_printed_quoted :
    quotedResponse.IsWritable ∧
      ∃ v, Json.read (Json.write none quotedResponse.dump) = .ok v ∧
        read v = .accepted quotedResponse := by
  have hwritable : quotedResponse.IsWritable :=
    ⟨⟨by decide, by decide, by decide, by decide⟩, by decide +kernel, by decide +kernel⟩
  exact ⟨hwritable, (read_printed hwritable none).1⟩

end Response

end Courier
