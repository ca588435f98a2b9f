import RecordCodec.Codec.Read
import RecordCodec.Codec.Write

namespace RecordCodec

structure Stream where
  data : Bytes
  writable : Bool
  start : Nat
  cursor : Int
deriving DecidableEq

namespace Stream

/-- The number of bytes skipped at the start; a number outside the buffer and a value that is no
number fail differently. -/
def startOf (offset : Value) (length : Nat) : Except Error Nat :=
  match offset with
  | .float x =>
    if x.geInt 0 && x.leInt length then .error .notStreamOffset
    else .error (.streamOffset offset length)
  | v =>
    match v.toInt? with
    | some n =>
      if 0 ≤ n ∧ n ≤ length then .ok n.toNat else .error (.streamOffset offset length)
    | none => .error .notStreamOffset

def ofBuffer (buffer : Buffer) (offset : Value) : Except Error Stream := do
  let data ← buffer.view
  let start ← startOf offset data.length
  return ⟨data, buffer.writableView.toBool, start, 0⟩

def length (s : Stream) : Nat :=
  s.data.length - s.start

def tail (s : Stream) : Buffer :=
  .flat (s.data.drop s.start) s.writable

def withTail (s : Stream) (b : Buffer) : Stream :=
  { s with data := s.data.take s.start ++ b.data }

def seekOffset : Value → Except Error Int
  | .int n => .ok n
  | .float x =>
    if !x.isFinite then .error (.seekNotFinite x)
    else if !x.isInteger then .error (.seekNotWhole x)
    else .ok x.truncate
  | v => .error (.seekNotNumber v.kind)

/-- Moves the cursor: from the start (`whence` 0), from the cursor (1) or from the end (2). -/
def seek (s : Stream) (offset whence : Value) : Except Error Stream := do
  let n ← seekOffset offset
  if whence.eqInt 0 then return { s with cursor := n }
  else if whence.eqInt 1 then return { s with cursor := s.cursor + n }
  else if whence.eqInt 2 then return { s with cursor := s.length + n }
  else throw (.badWhence whence)

variable (reg : Registry)

def readAt (s : Stream) (offset : Value) (type : String) (order : Value) :
    Except Error Value := do
  let (v, _) ← Codec.readValue reg s.tail offset type order .none
  return v

def readNext (s : Stream) (type : String) (order : Value) : Except Error (Value × Stream) := do
  let (v, size) ← Codec.readValue reg s.tail (.int s.cursor) type order .none
  return (v, { s with cursor := s.cursor + size })

def writeAt (s : Stream) (offset : Value) (type : String) (source : Source) (order : Value) :
    Except Error Nat × Stream :=
  let (result, tail) := Codec.writeValue reg s.tail offset type source order .none
  (result, s.withTail tail)

def writeNext (s : Stream) (type : String) (source : Source) (order : Value) :
    Except Error Nat × Stream :=
  match s.writeAt reg (.int s.cursor) type source order with
  | (.ok size, s) => (.ok size, { s with cursor := s.cursor + size })
  | (.error e, s) => (.error e, s)

structure Drained where
  values : List Value
  stopped : Option Error
  stream : Stream

def drainWithin (type : String) (order : Value) : Nat → Stream → Drained
  | 0, s => ⟨[], if s.cursor < s.length then some .endless else none, s⟩
  | bound + 1, s =>
    if s.cursor < s.length then
      match s.readNext reg type order with
      | .error e => ⟨[], some e, s⟩
      | .ok (v, s) =>
        let rest := drainWithin type order bound s
        { rest with values := v :: rest.values }
    else ⟨[], none, s⟩

/-- Reads values up to the end of the stream. Every value takes a byte at least, or the stream
would never end. -/
def drain (s : Stream) (type : String) (order : Value) : Drained :=
  drainWithin reg type order (s.length - s.cursor).toNat s

end Stream

end RecordCodec
