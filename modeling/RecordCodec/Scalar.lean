import RecordCodec.Leaf

namespace RecordCodec

inductive Scalar where
  | leaf (l : Leaf)
  | string
deriving DecidableEq, Inhabited

namespace Scalar

def name : Scalar → String
  | leaf l => l.name
  | string => "string"

def size? : Scalar → Option Nat
  | leaf l => some l.size
  | string => none

def writer? : Scalar → Option Leaf
  | leaf l => some l
  | string => none

theorem name_ne (s : Scalar) : s.name ≠ "" := by
  match s with
  | .string => decide
  | .leaf l =>
    match l with
    | .int false size => cases size <;> decide
    | .int true size => cases size <;> decide
    | .single | .double | .char | .bool => decide
    | .bits c => cases c <;> decide

theorem size_pos (s : Scalar) : ∀ n ∈ s.size?, 0 < n := by
  match s with
  | .string => simp [size?]
  | .leaf l =>
    match l with
    | .int _ size => cases size <;> simp [size?, Leaf.size, WordSize.bytes]
    | .single | .double | .char | .bool => simp [size?, Leaf.size]
    | .bits c => cases c <;> simp [size?, Leaf.size, Container.bytes]

def primitives : List Scalar :=
  [leaf (.int false .one), leaf (.int true .one), leaf (.int false .two), leaf (.int true .two),
    leaf (.int false .four), leaf (.int true .four), leaf (.int false .eight),
    leaf (.int true .eight), leaf .single, leaf .double, leaf .char, leaf .bool, string]

def containers : List Scalar :=
  Container.all.map fun c => leaf (.bits c)

def isPrimitiveName (name : String) : Bool :=
  primitives.any fun s => s.name == name

/-- A string up to its zero byte, and the number of bytes with that one. -/
def readString (buffer : Bytes) (offset : Int) : Except Error (Value × Nat) :=
  if offset < 0 ∨ buffer.length ≤ offset then .error (.noStringAt offset)
  else
    match (buffer.drop offset.toNat).span (· != 0) with
    | (_, []) => .error (.unterminated offset)
    | (data, _ :: _) => .ok (.text (Latin1.decode data), data.length + 1)

def read (s : Scalar) (order : ByteOrder) (options : Value) (buffer : Bytes) (offset : Int) :
    Except Error (Value × Nat) :=
  match s with
  | leaf l => do return (← l.read order options buffer offset, l.size)
  | string => readString buffer offset

end Scalar

end RecordCodec
