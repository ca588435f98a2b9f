import RecordCodec.Number.Limit
import RecordCodec.Text.Blank
import RecordCodec.Text.Digit

namespace RecordCodec.Numeral

/-- How the base of a numeral is found. -/
inductive Base where
  | ten
  | two
  /-- The prefix decides; without one the numeral is decimal and has no zeros in front. -/
  | byPrefix
deriving DecidableEq

/-- The blanks allowed around a numeral: the information separators are none. -/
def isBlank (c : Char) : Bool :=
  Text.isBlank c && !(28 ≤ c.toNat && c.toNat ≤ 31)

def digitValue? (c : Char) : Option Nat :=
  let n := c.toNat
  if 0x61 ≤ n && n ≤ 0x66 then some (n - 0x57)
  else if 0x41 ≤ n && n ≤ 0x46 then some (n - 0x37)
  else Text.decimalValue? c

/-- Drops the underscores that stand between two digits; fails where one stands elsewhere. -/
def ungroup : List Char → Option (List Char)
  | [] => some []
  | ['_'] => none
  | '_' :: '_' :: _ => none
  | '_' :: rest => ungroup rest
  | c :: rest => (ungroup rest).map (c :: ·)

def digits? (base : Nat) (body : List Char) : Option (List Nat) := do
  guard (body.head? != some '_' && !body.isEmpty)
  let digits ← (← ungroup body).mapM digitValue?
  guard (digits.all (· < base))
  return digits

def ofDigits (base : Nat) (digits : List Nat) : Nat :=
  digits.foldl (fun n d => n * base + d) 0

def decimal? (body : List Char) : Option Nat := do
  let digits ← digits? 10 body
  guard (digits.length ≤ maxDecimalDigits)
  return ofDigits 10 digits

def prefixBase? (letter : Char) : Option Nat :=
  if letter == 'x' || letter == 'X' then some 16
  else if letter == 'o' || letter == 'O' then some 8
  else if letter == 'b' || letter == 'B' then some 2
  else none

def prefixed? (base : Nat) (body : List Char) : Option Nat := do
  let body := if body.head? == some '_' then body.tail else body
  return ofDigits base (← digits? base body)

def plain? (body : List Char) : Option Nat := do
  let n ← decimal? body
  let leadingZero := match body with
    | c :: _ => Text.decimalValue? c == some 0
    | [] => false
  guard (!leadingZero || n == 0)
  return n

def unsigned? (base : Base) (body : List Char) : Option Nat :=
  match base, body with
  | .ten, body => decimal? body
  | .two, zero :: letter :: rest =>
    if Text.decimalValue? zero == some 0 && prefixBase? letter == some 2 then prefixed? 2 rest
    else (digits? 2 (zero :: letter :: rest)).map (ofDigits 2)
  | .two, body => (digits? 2 body).map (ofDigits 2)
  | .byPrefix, zero :: letter :: rest =>
    match if Text.decimalValue? zero == some 0 then prefixBase? letter else none with
    | some b => prefixed? b rest
    | none => plain? (zero :: letter :: rest)
  | .byPrefix, body => plain? body

def parse? (base : Base) (text : List Char) : Option Int :=
  let body := ((text.dropWhile isBlank).reverse.dropWhile isBlank).reverse
  match body with
  | '-' :: rest => (unsigned? base rest).map fun n => -(n : Int)
  | '+' :: rest => (unsigned? base rest).map fun n => (n : Int)
  | body => (unsigned? base body).map fun n => (n : Int)

end RecordCodec.Numeral
