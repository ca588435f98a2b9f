import RecordCodec.Number.Binary64

namespace RecordCodec.Binary64

-- Powers of natural numbers are those of the core library.
attribute [local instance (high)] instPowNat

def droppedBits : Nat :=
  BinaryFormat.double.fractionBits - BinaryFormat.single.fractionBits

def quietNaN (f : BinaryFormat) (fraction : Nat) : Nat :=
  f.infinity + (2 ^ (f.fractionBits - 1) ||| fraction % 2 ^ f.fractionBits)

def narrowMagnitude? (magnitude : Nat) : Option Nat :=
  if BinaryFormat.double.infinity < magnitude then
    some (quietNaN .single (magnitude % 2 ^ BinaryFormat.double.fractionBits / 2 ^ droppedBits))
  else if magnitude = BinaryFormat.double.infinity then some BinaryFormat.single.infinity
  else BinaryFormat.single.round? (BinaryFormat.double.mantissa magnitude)
    (BinaryFormat.double.scale magnitude)

/-- The pattern of the nearest single, as a number below `2 ^ 32`. -/
def narrow? (x : Binary64) : Option Nat :=
  (narrowMagnitude? x.magnitude).map fun magnitude =>
    if x.negative then BinaryFormat.single.signBit + magnitude else magnitude

def widenMagnitude (magnitude : Nat) : Nat :=
  if BinaryFormat.single.infinity < magnitude then
    quietNaN .double (magnitude % 2 ^ BinaryFormat.single.fractionBits * 2 ^ droppedBits)
  else if magnitude = BinaryFormat.single.infinity then BinaryFormat.double.infinity
  else (BinaryFormat.double.round? (BinaryFormat.single.mantissa magnitude)
    (BinaryFormat.single.scale magnitude)).getD 0

def widen (pattern : Nat) : Binary64 :=
  ofMagnitude (BinaryFormat.single.signBit ≤ pattern)
    (widenMagnitude (pattern % BinaryFormat.single.signBit))

end RecordCodec.Binary64
