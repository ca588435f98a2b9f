import RecordCodec.Proofs.Codec.RoundTrip
import RecordCodec.Proofs.Expansion.Acceptance

namespace RecordCodec.Codec

open Expansion Registry

section Outcomes

variable {reg : Registry} {record : String} {r : RecordType} {x : Expansion} {position : Value}
  {p n : Nat} {order : ByteOrder} {data : Bytes} {s : Source}
  (hr : reg.find? record = some (.record r)) (hx : reg.expansion? (.record r) .none = some x)
  (hsound : x.Sound) (hsize : (x.size : Int) = r.size)
  (hpos : Position.ofValue position = .ok p) (hp : (p : Int) + r.size ≤ data.length)
include hr hx hsound hsize hpos hp

theorem complete_of_write_eq_ok
    (h : (write reg (.flat data true) position record s order.toValue).1 = .ok n) :
    n = x.size ∧ x.Complete order s p data
      (write reg (.flat data true) position record s order.toValue).2.data := by
  rw [write_eq_writeValue hr, writeValue_eq hr rfl hx hpos hp] at h ⊢
  cases hrun : (x.write order s p).run data with
  | error e after =>
    rw [hrun] at h
    cases h
  | ok size after =>
    rw [hrun] at h
    cases h
    exact complete_of_write hsound (by omega) hrun

theorem exists_write_eq_ok_iff :
    (∃ n, (write reg (.flat data true) position record s order.toValue).1 = .ok n) ↔
      ∀ place ∈ x.places, place.encoding? order data s ≠ none := by
  constructor
  · rintro ⟨n, h⟩ place hplace
    obtain ⟨-, hcomplete⟩ := complete_of_write_eq_ok hr hx hsound hsize hpos hp h
    rw [hcomplete.encoding?_eq place hplace]
    exact nofun
  · intro h
    obtain ⟨blocks, -, -, hrun⟩ :=
      write_of_encodings hsound order s (show p + x.size ≤ data.length by omega) h
    refine ⟨x.size, ?_⟩
    rw [write_eq_writeValue hr, writeValue_eq hr rfl hx hpos hp, hrun]

end Outcomes

/-- A row in other spellings than those that are read: a truth value out of a number, a tuple,
integers for a float, a bitfield by the names of its runs, and an entry that is no member. -/
def looseRow : Value :=
  .dict [("comment", .text "unused"), ("on", .int 7), ("cells", .tuple
    [.dict [("tag", .bool true), ("level", .int (-3)), ("flags", .dict [("a", .text "0b101")])],
    .dict [("tag", .int 5), ("level", .bool false), ("flags", .int 255)]])]

def sampleSchemas : List (String × String) :=
  [("u8 x\nu8[2] a\ndouble d", "Sample")]

/-- A mapping that is no dict, with a sequence that is neither a list nor a tuple, nor text or bytes,
and a number that is neither an integer nor a float. -/
def proxy : Source :=
  .mapping ⟨"mappingproxy",
      some "mappingproxy(\x7b'x': 1, 'a': range(0, 2), 'd': Decimal('1.5')\x7d)", none, true, false⟩
    [("x", .value (.int 1)),
      ("a", .sequence ⟨"range", some "range(0, 2)", none, true, true⟩
        [.value (.int 0), .value (.int 1)]),
      ("d", .value (.again (.other
        ⟨"Decimal", some "Decimal('1.5')", some ⟨0x3FF8000000000000⟩, true, true⟩)))]

end RecordCodec.Codec
