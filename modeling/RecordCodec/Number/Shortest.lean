import RecordCodec.Number.Binary64

namespace RecordCodec

-- Powers of natural numbers are those of the core library.
attribute [local instance (high)] instPowNat

structure Decimal where
  digits : Nat
  exponent : Int
deriving DecidableEq, Inhabited

namespace Binary64

/-- The numbers that round to a double lie between `low / den` and `high / den` around
`mid / den`; the ends belong to them when `closed`. -/
structure Interval where
  low : Nat
  mid : Nat
  high : Nat
  den : Nat
  closed : Bool

/-- The interval of a positive finite magnitude, in quarters of its unit: the gap below a power of
two is half as wide as the one above. -/
def roundingInterval (magnitude : Nat) : Interval :=
  let f := BinaryFormat.double
  let m := f.mantissa magnitude
  let e := f.scale magnitude - 2
  let factor := 2 ^ e.toNat
  let atPower := magnitude % 2 ^ f.fractionBits = 0 ∧ 2 ^ f.fractionBits < magnitude
  { low := (4 * m - if atPower then 1 else 2) * factor
    mid := 4 * m * factor
    high := (4 * m + 2) * factor
    den := 2 ^ (-e).toNat
    closed := m % 2 == 0 }

def leadingExponent (n d : Nat) : Int :=
  if d ≤ n then (Nat.toDigits 10 (n / d)).length - 1
  else -((Nat.toDigits 10 ((d + n - 1) / n - 1)).length : Int)

/-- The multiple of `10 ^ exponent` nearest to the middle of the interval among its two
neighbours there, if one of them lies inside. -/
def Interval.nearest? (i : Interval) (exponent : Int) : Option Decimal :=
  let up := 10 ^ (-exponent).toNat
  let den := i.den * 10 ^ exponent.toNat
  let mid := i.mid * up
  let lower := mid / den
  let inside (c : Nat) : Bool :=
    if i.closed then i.low * up ≤ c * den && c * den ≤ i.high * up
    else i.low * up < c * den && c * den < i.high * up
  let below := mid - lower * den
  let above := (lower + 1) * den - mid
  let takeUpper :=
    if inside lower && inside (lower + 1) then above < below || (above == below && lower % 2 == 1)
    else inside (lower + 1)
  if takeUpper then some ⟨lower + 1, exponent⟩
  else if inside lower then some ⟨lower, exponent⟩ else none

/-- Seventeen digits always suffice, so the search below them does not come out empty. -/
def shortestMagnitude (magnitude : Nat) : Decimal :=
  let i := roundingInterval magnitude
  let lead := leadingExponent i.mid i.den
  ((List.range 17).findSome? fun (n : Nat) => i.nearest? (lead - n)).getD ⟨0, 0⟩

end Binary64

end RecordCodec
