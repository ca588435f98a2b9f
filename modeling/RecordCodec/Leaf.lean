import RecordCodec.Bitfield.Build
import RecordCodec.ByteOrder
import RecordCodec.Number.Binary32
import RecordCodec.Text.Latin1
import RecordCodec.Value.Source

namespace RecordCodec

-- Powers of natural numbers are those of the core library.
attribute [local instance (high)] instPowNat

inductive WordSize where
  | one
  | two
  | four
  | eight
deriving DecidableEq, Inhabited

def WordSize.bytes : WordSize → Nat
  | .one => 1
  | .two => 2
  | .four => 4
  | .eight => 8

inductive Leaf where
  | int (signed : Bool) (size : WordSize)
  | single
  | double
  | char
  | bool
  | bits (c : Container)
deriving DecidableEq, Inhabited

namespace Leaf

def size : Leaf → Nat
  | int _ size => size.bytes
  | single => 4
  | double => 8
  | char => 1
  | bool => 4
  | bits c => c.bytes

def name : Leaf → String
  | int false .one => "u8"
  | int true .one => "s8"
  | int false .two => "u16"
  | int true .two => "s16"
  | int false .four => "u32"
  | int true .four => "s32"
  | int false .eight => "u64"
  | int true .eight => "s64"
  | single => "float"
  | double => "double"
  | char => "char"
  | bool => "bool"
  | bits c => c.name

def intFormat : Bool → WordSize → String
  | false, .one => "B"
  | true, .one => "b"
  | false, .two => "H"
  | true, .two => "h"
  | false, .four => "I"
  | true, .four => "i"
  | false, .eight => "Q"
  | true, .eight => "q"

def format : Leaf → String
  | int signed size => intFormat signed size
  | single => "f"
  | double => "d"
  | char => "c"
  | bool => intFormat false .four
  | bits .bits8 => intFormat false .one
  | bits .bits16 => intFormat false .two
  | bits .bits32 => intFormat false .four
  | bits .bits64 => intFormat false .eight

def intRange (signed : Bool) (size : WordSize) : Int × Int :=
  if signed then (-(2 ^ (8 * size.bytes - 1) : Nat), (2 ^ (8 * size.bytes - 1) : Nat))
  else (0, (2 ^ (8 * size.bytes) : Nat))

/-- Two's complement: the upper half of the patterns stands for the negative integers. -/
def toSigned (size : WordSize) (pattern : Nat) : Int :=
  if pattern < 2 ^ (8 * size.bytes - 1) then pattern else pattern - (2 ^ (8 * size.bytes) : Nat)

def toPattern (size : WordSize) (n : Int) : Nat :=
  (n % (2 ^ (8 * size.bytes) : Nat)).toNat

def decode (l : Leaf) (order : ByteOrder) (options : Value) (block : Bytes) :
    Except Error Value :=
  match l with
  | int false _ => .ok (.int (order.decode block))
  | int true size => .ok (.int (toSigned size (order.decode block)))
  | single => .ok (.float (.widen (order.decode block)))
  | double => .ok (.float ⟨UInt64.ofNat (order.decode block)⟩)
  | char => .ok (.text (Latin1.decode block))
  | bool => .ok (.bool (order.decode block != 0))
  | bits c => do return .bits (← Bitfield.ofRaw c (order.decode block) options)

def charByte (v : Value) : Except Error UInt8 :=
  match v with
  | .text s =>
    match Latin1.encode? s with
    | some [b] => .ok b
    | some data => .error (.charNotSingle (.bytes data))
    | none => .error (.unencodable v "char")
  | .int n => if 0 ≤ n ∧ n < 256 then .ok (UInt8.ofNat n.toNat) else .error (.charOutOfRange v)
  | .bytes [b] => .ok b
  | _ => .error (.charNotSingle v)

/-- What is written for a source: characters become bytes, truth values and bitfields integers.
Nothing has been written when this fails. -/
def prepare (l : Leaf) (options : Value) (data : Bytes) (s : Source) : Except Error Source :=
  match l with
  | char => do return .value (.bytes [← charByte (s.now data)])
  | bool => .ok (.value (.int (if (s.now data).isTrue then 1 else 0)))
  | bits c => do return .value (.int (← Bitfield.coerce c (s.opened data) options).raw)
  | _ => .ok s

def toDouble? : Value → Option Binary64
  | .float x => some x
  | .again (.other o) => o.float?
  | v => v.toInt?.bind Binary64.ofInt?

def encodeInt? (signed : Bool) (size : WordSize) (order : ByteOrder) (v : Value) :
    Option Bytes := do
  let n ← v.toInt?
  let range := intRange signed size
  if range.1 ≤ n ∧ n < range.2 then some (order.encode size.bytes (toPattern size n)) else none

def encode? (l : Leaf) (order : ByteOrder) (v : Value) : Option Bytes :=
  match l with
  | int signed size => encodeInt? signed size order v
  | single => ((toDouble? v).bind Binary64.narrow?).map (order.encode 4)
  | double => (toDouble? v).map fun x => order.encode 8 x.bits.toNat
  | char => match v with
    | .bytes data => if data.length = 1 then some data else none
    | _ => none
  | bool => encodeInt? false .four order v
  | bits c => v.toInt?.map fun n => order.encode c.bytes n.toNat

/-- What a value without bytes leaves in its window: zeros, or the lowest bits of an integer that
is too large for eight bytes in big-endian order. -/
def residue (l : Leaf) (order : ByteOrder) (v : Value) : Bytes :=
  match l, order, v.toInt? with
  | int signed .eight, .big, some n =>
    if signed ∨ 0 ≤ n then order.encode 8 (toPattern .eight n) else List.replicate 8 0
  | _, _, _ => List.replicate l.size 0

end Leaf

namespace Window

def isAddress (offset : Int) : Bool :=
  -0x8000000000000000 ≤ offset && offset < 0x8000000000000000

/-- Where `size` bytes at the given offset begin, if they lie inside `length` bytes. -/
def start? (length size : Nat) (offset : Int) : Option Nat :=
  let start := if offset < 0 then offset + length else offset
  if 0 ≤ start ∧ start + size ≤ length then some start.toNat else none

def get (buffer : Bytes) (start size : Nat) : Bytes :=
  (buffer.drop start).take size

def set (buffer : Bytes) (start : Nat) (block : Bytes) : Bytes :=
  buffer.take start ++ block ++ buffer.drop (start + block.length)

end Window

/-- Actions that write to a buffer; what was written before an error stays. -/
abbrev WriteM := EStateM Error Bytes

namespace Leaf

def read (l : Leaf) (order : ByteOrder) (options : Value) (buffer : Bytes) (offset : Int) :
    Except Error Value :=
  match Window.start? buffer.length l.size offset with
  | none =>
    .error (if Window.isAddress offset then .unreadable l.format offset else .offsetTooLarge)
  | some start => l.decode order options (Window.get buffer start l.size)

/-- Forms the bytes of a prepared source in its window. An error shows the source as it is after
that. -/
def store (l : Leaf) (order : ByteOrder) (s : Source) (offset : Int) : WriteM Nat := do
  let data ← get
  match Window.start? data.length l.size offset with
  | none =>
    throw (if Window.isAddress offset then .unencodable (s.now data) l.name else .indexTooLarge)
  | some start =>
    match l.encode? order (s.now data) with
    | some block =>
      set (Window.set data start block)
      return l.size
    | none =>
      let data := Window.set data start (l.residue order (s.now data))
      set data
      throw (.unencodable (s.now data) l.name)

def write (l : Leaf) (order : ByteOrder) (options : Value) (s : Source) (offset : Int) :
    WriteM Nat := do
  match l.prepare options (← get) s with
  | .error e => throw e
  | .ok s => l.store order s offset

end Leaf

end RecordCodec
