import RecordCodec.Number.Shortest
import RecordCodec.Text.Quoted

namespace RecordCodec

def intText (n : Int) : String :=
  if n < 0 then "-" ++ String.ofList (Nat.toDigits 10 n.natAbs)
  else String.ofList (Nat.toDigits 10 n.natAbs)

namespace Decimal

def significant (d : Decimal) : List Char :=
  ((Nat.toDigits 10 d.digits).reverse.dropWhile (· == '0')).reverse

def leading (d : Decimal) : Int :=
  d.exponent + (Nat.toDigits 10 d.digits).length - 1

def positional (d : Decimal) : List Char :=
  let digits := d.significant
  if d.leading < 0 then '0' :: '.' :: List.replicate (-d.leading - 1).toNat '0' ++ digits
  else
    let whole := d.leading.toNat + 1
    if digits.length ≤ whole then
      digits ++ List.replicate (whole - digits.length) '0' ++ ['.', '0']
    else digits.take whole ++ '.' :: digits.drop whole

def scientific (d : Decimal) : List Char :=
  let mark := if d.leading < 0 then '-' else '+'
  let exponent := 'e' :: mark :: Text.paddedDigits 10 2 d.leading.natAbs
  match d.significant with
  | [] => '0' :: exponent
  | [digit] => digit :: exponent
  | digit :: rest => digit :: '.' :: rest ++ exponent

def text (d : Decimal) : List Char :=
  if -4 ≤ d.leading ∧ d.leading < 16 then d.positional else d.scientific

end Decimal

def Binary64.magnitudeText (magnitude : Nat) : List Char :=
  if magnitude = 0 then ['0', '.', '0'] else (shortestMagnitude magnitude).text

/-- The text of a double; `infinite` and `notANumber` are the words for what has no digits. -/
def Binary64.textWith (infinite notANumber : String) (x : Binary64) : String :=
  if x.isNaN then notANumber
  else
    let unsigned :=
      if x.isInfinite then infinite else String.ofList (magnitudeText x.magnitude)
    if x.negative then "-" ++ unsigned else unsigned

def Binary64.text (x : Binary64) : String :=
  x.textWith "inf" "nan"

end RecordCodec
