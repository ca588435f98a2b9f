import RecordCodec.Codec.Buffer
import RecordCodec.Registry.Basic

namespace RecordCodec.Codec

def readItems (item : Nat → Except Error (Value × Nat)) :
    Nat → Nat → Except Error (List Value × Nat)
  | 0, _ => .ok ([], 0)
  | n + 1, cursor => do
    let (v, size) ← item cursor
    let (rest, total) ← readItems item n (cursor + size)
    return (v :: rest, size + total)

def readMember (reg : Registry)
    (item : Descriptor → Value → Nat → Except Error (Value × Nat)) (m : Member) (cursor : Nat) :
    Except Error (Value × Nat) := do
  let d ← reg.lookup m.typeName
  if m.count = 1 then item d m.options cursor
  else
    let (items, size) ← readItems (item d m.options) m.count cursor
    return (.list items, size)

def readMembers (member : Member → Nat → Except Error (Value × Nat)) :
    List Member → Nat → Except Error (List (String × Value) × Nat)
  | [], _ => .ok ([], 0)
  | m :: rest, cursor => do
    let (v, size) ← member m cursor
    let (entries, total) ← readMembers member rest (cursor + size)
    return ((m.name, v) :: entries, size + total)

/-- Reads a value with at most `nesting` types inside each other. -/
def readNested (reg : Registry) (order : ByteOrder) (buffer : Bytes) :
    Nat → Descriptor → Value → Nat → Except Error (Value × Nat)
  | 0, _, _, _ => .error .endless
  | _ + 1, .scalar t, options, cursor => t.reader.read order options buffer cursor
  | nesting + 1, .record r, _, cursor => do
    let (entries, size) ←
      readMembers (readMember reg (readNested reg order buffer nesting)) r.members cursor
    return (.dict entries, size)

def readAt (reg : Registry) (order : ByteOrder) (buffer : Bytes) (d : Descriptor)
    (options : Value) (start : Nat) : Except Error (Value × Nat) :=
  readNested reg order buffer reg.nestingBound d options start

def read (reg : Registry) (buffer : Buffer) (position : Value) (record : String)
    (order : Value) : Except Error Value := do
  let data ← buffer.view
  let r ← reg.lookupRecord record
  let start ← Position.span data.length position r.size record
  let order ← ByteOrder.ofValue order
  let (v, _) ← readAt reg order data (.record r) .none start
  return v

/-- Where a value of the type begins: the span is checked if the type has a fixed size. -/
def startOf (d : Descriptor) (length : Nat) (position : Value) (type : String) :
    Except Error Nat :=
  match d.size? with
  | none => Position.ofValue position
  | some size => Position.span length position size type

def readValue (reg : Registry) (buffer : Buffer) (position : Value) (type : String)
    (order options : Value) : Except Error (Value × Nat) := do
  let data ← buffer.view
  let d ← reg.lookup type
  let start ← startOf d data.length position type
  let order ← ByteOrder.ofValue order
  readAt reg order data d options start

end RecordCodec.Codec
