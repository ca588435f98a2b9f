import RecordCodec.Error
import RecordCodec.Number.Numeral

namespace RecordCodec.Value

def integerOfText (s : List Char) : Except Error Int :=
  match Numeral.parse? .ten s with
  | some n => .ok n
  | Option.none => .error .notNumeral

/-- Bytes outside ASCII occur in no numeral. -/
def integerOfBytes (data : Bytes) : Except Error Int :=
  if data.all (· < 128) then integerOfText (data.map fun b => Char.ofNat b.toNat)
  else .error .notNumeral

def integer : Value → Except Error Int
  | int n => .ok n
  | bool b => .ok (if b then 1 else 0)
  | float x =>
    if x.isNaN then .error .undefinedIntegral
    else if x.isInfinite then .error .infiniteIntegral
    else .ok x.truncate
  | text s => integerOfText s.toList
  | bytes data | bytearray data => integerOfBytes data
  | _ => .error .notIntegral

end RecordCodec.Value
