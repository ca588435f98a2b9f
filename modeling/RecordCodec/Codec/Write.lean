import RecordCodec.Codec.Buffer
import RecordCodec.Registry.Basic

namespace RecordCodec.Codec

def arrayItems (m : Member) (data : Bytes) (s : Source) : Except Error (List Source) :=
  match s.items? data with
  | none => .error (.notSequence m.name s.kind)
  | some items =>
    if items.length = m.count then .ok items
    else .error (.itemCount m.name m.count items.length)

def outcome {α : Type} : Except Error α → WriteM α
  | .ok a => pure a
  | .error e => throw e

def writeItems (item : Source → Nat → WriteM Nat) : List Source → Nat → WriteM Nat
  | [], _ => pure 0
  | s :: rest, cursor => do
    let size ← item (s.taken (← get)) cursor
    let total ← writeItems item rest (cursor + size)
    return size + total

def writeMember (reg : Registry) (item : Descriptor → Value → Source → Nat → WriteM Nat)
    (record : String) (entries : List (String × Source)) (m : Member) (cursor : Nat) :
    WriteM Nat := do
  match entries.lookup m.name with
  | none => throw (.missingMember m.name record)
  | some s =>
    let d ← outcome (reg.lookup m.typeName)
    if m.count = 1 then item d m.options s cursor
    else
      let items ← outcome (arrayItems m (← get) s)
      writeItems (item d m.options) items cursor

def writeMembers (member : Member → Nat → WriteM Nat) : List Member → Nat → WriteM Nat
  | [], _ => pure 0
  | m :: rest, cursor => do
    let size ← member m cursor
    let total ← writeMembers member rest (cursor + size)
    return size + total

def writeNested (reg : Registry) (order : ByteOrder) :
    Nat → Descriptor → Value → Source → Nat → WriteM Nat
  | 0, _, _, _, _ => throw .endless
  | _ + 1, .scalar t, options, s, cursor =>
    match t.writer with
    | none => throw (.noEncoder t.name)
    | some l => l.write order options s cursor
  | nesting + 1, .record r, _, s, cursor =>
    match s.entries? with
    | some entries =>
      writeMembers (writeMember reg (writeNested reg order nesting) r.name entries) r.members
        cursor
    | none => throw (.notMapping r.name s.kind)

def writeAt (reg : Registry) (order : ByteOrder) (d : Descriptor) (options : Value) (s : Source)
    (start : Nat) : WriteM Nat :=
  writeNested reg order reg.nestingBound d options s start

def runOn (buffer : Buffer) (prepared : Except Error (WriteM Nat)) : Except Error Nat × Buffer :=
  match prepared with
  | .error e => (.error e, buffer)
  | .ok action =>
    match action.run buffer.data with
    | .ok size data => (.ok size, buffer.withData data)
    | .error e data => (.error e, buffer.withData data)

/-- Writes a record from a mapping; gives the number of bytes and the buffer as it is then. -/
def write (reg : Registry) (buffer : Buffer) (position : Value) (record : String) (s : Source)
    (order : Value) : Except Error Nat × Buffer :=
  runOn buffer do
    let data ← buffer.writableView
    let r ← reg.lookupRecord record
    let start ← Position.span data.length position r.size record
    let order ← ByteOrder.ofValue order
    return writeAt reg order (.record r) .none s start

def writeValue (reg : Registry) (buffer : Buffer) (position : Value) (type : String) (s : Source)
    (order options : Value) : Except Error Nat × Buffer :=
  runOn buffer do
    let data ← buffer.writableView
    let d ← reg.lookup type
    match d.size? with
    | none => throw (.noEncoder type)
    | some size =>
      let start ← Position.span data.length position size type
      let order ← ByteOrder.ofValue order
      return writeAt reg order d options s start

end RecordCodec.Codec
