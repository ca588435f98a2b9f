namespace RecordCodec

-- Powers of natural numbers are those of the core library.
attribute [local instance (high)] instPowNat

/-- The widths of the exponent and of the fraction of a binary format. -/
structure BinaryFormat where
  exponentBits : Nat
  fractionBits : Nat
deriving DecidableEq

namespace BinaryFormat

def single : BinaryFormat := ⟨8, 23⟩

def double : BinaryFormat := ⟨11, 52⟩

variable (f : BinaryFormat)

def infinity : Nat :=
  (2 ^ f.exponentBits - 1) * 2 ^ f.fractionBits

def signBit : Nat :=
  2 ^ (f.exponentBits + f.fractionBits)

def minScale : Int :=
  2 - 2 ^ (f.exponentBits - 1) - f.fractionBits

def mantissa (magnitude : Nat) : Nat :=
  let fraction := magnitude % 2 ^ f.fractionBits
  if magnitude < 2 ^ f.fractionBits then fraction else fraction + 2 ^ f.fractionBits

def scale (magnitude : Nat) : Int :=
  f.minScale + (magnitude / 2 ^ f.fractionBits - 1 : Nat)

/-- The quotient rounded to the nearest integer, a tie going to the even one. -/
def divRound (n d : Nat) : Nat :=
  let q := n / d
  let r := n % d
  if 2 * r < d then q else if d < 2 * r then q + 1 else q + q % 2

/-- The magnitude nearest to `m * 2 ^ e`, or nothing where that is infinity. -/
def round? (m : Nat) (e : Int) : Option Nat :=
  let unit := max (m.log2 + e - f.fractionBits) f.minScale
  let shift := e - unit
  let n := if 0 ≤ shift then m * 2 ^ shift.toNat else divRound m (2 ^ (-shift).toNat)
  -- a carry out of the fraction raises the exponent by itself
  let magnitude := (unit - f.minScale).toNat * 2 ^ f.fractionBits + n
  if m = 0 then some 0 else if magnitude < f.infinity then some magnitude else none

end BinaryFormat

end RecordCodec
