import RecordCodec.Number.Binary

namespace RecordCodec

-- Powers of natural numbers are those of the core library.
attribute [local instance (high)] instPowNat

structure Binary64 where
  bits : UInt64
deriving DecidableEq, Inhabited

namespace Binary64

def ofMagnitude (negative : Bool) (magnitude : Nat) : Binary64 :=
  ⟨UInt64.ofNat (if negative then BinaryFormat.double.signBit + magnitude else magnitude)⟩

def negative (x : Binary64) : Bool :=
  BinaryFormat.double.signBit ≤ x.bits.toNat

def magnitude (x : Binary64) : Nat :=
  x.bits.toNat % BinaryFormat.double.signBit

def isNaN (x : Binary64) : Bool :=
  BinaryFormat.double.infinity < x.magnitude

def isInfinite (x : Binary64) : Bool :=
  x.magnitude == BinaryFormat.double.infinity

def isFinite (x : Binary64) : Bool :=
  x.magnitude < BinaryFormat.double.infinity

def isZero (x : Binary64) : Bool :=
  x.magnitude == 0

def num (x : Binary64) : Int :=
  let n := BinaryFormat.double.mantissa x.magnitude *
    2 ^ (BinaryFormat.double.scale x.magnitude).toNat
  if x.negative then -n else n

def den (x : Binary64) : Nat :=
  2 ^ (-BinaryFormat.double.scale x.magnitude).toNat

def isInteger (x : Binary64) : Bool :=
  x.isFinite && x.num % x.den == 0

def truncate (x : Binary64) : Int :=
  x.num.tdiv x.den

def ofInt? (n : Int) : Option Binary64 :=
  (BinaryFormat.double.round? n.natAbs 0).map (ofMagnitude (n < 0))

/-- Equality by value: a NaN equals nothing, and the two zeros are equal. -/
def beq (x y : Binary64) : Bool :=
  !x.isNaN && !y.isNaN && (x.bits == y.bits || (x.isZero && y.isZero))

def eqInt (x : Binary64) (n : Int) : Bool :=
  x.isInteger && x.truncate == n

def geInt (x : Binary64) (n : Int) : Bool :=
  if x.isNaN then false else if x.isInfinite then !x.negative else n * x.den ≤ x.num

def leInt (x : Binary64) (n : Int) : Bool :=
  if x.isNaN then false else if x.isInfinite then x.negative else x.num ≤ n * x.den

end Binary64

end RecordCodec
