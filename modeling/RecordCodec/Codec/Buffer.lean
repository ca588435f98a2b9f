import RecordCodec.Error

namespace RecordCodec

/-- An argument in the place of a buffer. -/
inductive Buffer where
  | flat (data : Bytes) (writable : Bool)
  /-- A view that leaves bytes out between its elements. -/
  | strided
  /-- A view without elements in several dimensions. -/
  | unflattenable
  | other (kind : String)
deriving DecidableEq

namespace Buffer

def data : Buffer → Bytes
  | flat data _ => data
  | _ => []

def view : Buffer → Except Error Bytes
  | flat data _ => .ok data
  | strided => .error .strided
  | unflattenable => .error .unflattenable
  | other kind => .error (.notBuffer kind)

def writableView (b : Buffer) : Except Error Bytes :=
  match b with
  | flat _ false => .error .readOnly
  | b => b.view

def withData (b : Buffer) (data : Bytes) : Buffer :=
  match b with
  | flat _ writable => flat data writable
  | b => b

end Buffer

namespace Position

def ofInt (n : Int) : Except Error Nat :=
  if 0 ≤ n then .ok n.toNat else .error (.positionNegative n)

/-- The byte position that a value gives: a whole number that is not negative. -/
def ofValue : Value → Except Error Nat
  | .int n => ofInt n
  | .float x =>
    if !x.isFinite then .error (.positionNotFinite x)
    else if !x.isInteger then .error (.positionNotWhole x)
    else ofInt x.truncate
  | v => .error (.positionNotNumber v.kind)

def span (length : Nat) (position : Value) (size : Int) (type : String) : Except Error Nat := do
  let start ← ofValue position
  if (length : Int) < start + size then throw (.beyondEnd type size start length)
  return start

end Position

end RecordCodec
