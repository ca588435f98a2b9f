import RecordCodec.Codec.Read
import RecordCodec.Codec.Write

namespace RecordCodec

/-- What stands in the place of a buffer when nothing is checked. -/
structure Memory where
  bytes : Except Error Bytes
  writable : Bool
  /-- The elements of the outermost dimension, each with the bytes that it has or cannot have. -/
  elements : Except Error (List (Except Error Bytes))

namespace Memory

def ofBytes (data : Bytes) (writable : Bool) : Memory :=
  ⟨.ok data, writable, .ok (data.map fun b => .ok [b])⟩

def itemByte : Value → Except Error Bytes
  | .int n => if 0 ≤ n ∧ n < 256 then .ok [UInt8.ofNat n.toNat] else .error .byteRange
  | .bool b => .ok [if b then 1 else 0]
  | _ => .error .notIntegral

/-- The elements of a value that is no memory. Text and mappings have elements without bytes. -/
def elementsOf (v : Value) : Except Error (List (Except Error Bytes)) :=
  match v with
  | .list items | .tuple items => .ok (items.map itemByte)
  | .text s => .ok (s.toList.map fun _ => .error .notIntegral)
  | .dict entries => .ok (entries.map fun _ => .error .notIndexable)
  | _ => .error .notIterable

def ofValue (v : Value) : Memory :=
  match v with
  | .bytes data => ofBytes data false
  | .bytearray data => ofBytes data true
  | v => ⟨.error .badCast, false, elementsOf v⟩

def isWritable (m : Memory) : Bool :=
  m.writable && m.bytes.toBool

def buffer (m : Memory) : Buffer :=
  .flat (m.bytes.toOption.getD []) m.isWritable

end Memory

namespace Codec

def scalarOf : Descriptor → Except Error ScalarType
  | .scalar t => .ok t
  | .record _ => .error .noCodec

def lookupScalar (reg : Registry) (type : String) : Except Error ScalarType := do
  scalarOf (← reg.lookup type)

def decodeString (m : Memory) (offset : Int) : Except Error (Value × Nat) := do
  if offset < 0 then throw (.noStringAt offset)
  let elements ← m.elements
  if elements.length ≤ offset then throw (.noStringAt offset)
  let data := (← (elements.drop offset.toNat).mapM id).flatten
  match Scalar.readString data 0 with
  | .ok result => return result
  | .error _ => throw (.unterminated offset)

def decode (reg : Registry) (m : Memory) (offset : Int) (type : String) (order options : Value) :
    Except Error (Value × Nat) := do
  let d ← reg.lookup type
  let order ← ByteOrder.ofValue order
  match (← scalarOf d).reader with
  | .string => decodeString m offset
  | reader =>
    reader.read order options (← m.bytes) offset

/-- What is written is prepared before the memory is looked at. -/
def encodeLeaf (l : Leaf) (writable : Bool) (order : ByteOrder) (options : Value) (s : Source)
    (offset : Int) : WriteM Nat := do
  let s ← outcome (l.prepare options (← get) s)
  if !writable then throw .notWritable
  l.store order s offset

def encode (reg : Registry) (m : Memory) (offset : Int) (type : String) (s : Source)
    (order options : Value) : Except Error Nat × Buffer :=
  runOn m.buffer do
    let d ← reg.lookup type
    let order ← ByteOrder.ofValue order
    match (← scalarOf d).writer with
    | none => throw .noWriter
    | some l => return encodeLeaf l m.isWritable order options s offset

end Codec

end RecordCodec
