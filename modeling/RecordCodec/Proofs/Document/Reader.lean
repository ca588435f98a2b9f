import RecordCodec.Document.Printer
import RecordCodec.Proofs.Number.Shortest

namespace RecordCodec.Document

def hexDigit? (c : Char) : Option Nat :=
  if '0' ≤ c ∧ c ≤ '9' then some (c.toNat - 48)
  else if 'a' ≤ c ∧ c ≤ 'f' then some (c.toNat - 87)
  else if 'A' ≤ c ∧ c ≤ 'F' then some (c.toNat - 55)
  else none

def hexUnit? (digits : List Char) : Option Nat :=
  (digits.mapM hexDigit?).map (List.foldl (16 * · + ·) 0)

def shortEscape? (c : Char) : Option Nat :=
  match c with
  | '\x22' | '\\' | '/' => some c.toNat
  | 'b' => some 8
  | 'f' => some 12
  | 'n' => some 10
  | 'r' => some 13
  | 't' => some 9
  | _ => none

def readUnits : List Char → Option (List Nat × List Char)
  | [] => none
  | c :: rest =>
    if c = '\x22' then some ([], rest)
    else if c = '\\' then
      match rest with
      | 'u' :: c₃ :: c₂ :: c₁ :: c₀ :: rest => do
        let unit ← hexUnit? [c₃, c₂, c₁, c₀]
        (readUnits rest).map (Prod.map (unit :: ·) id)
      | c :: rest => do
        let unit ← shortEscape? c
        (readUnits rest).map (Prod.map (unit :: ·) id)
      | [] => none
    else if c < ' ' then none
    else (readUnits rest).map (Prod.map (units c ++ ·) id)

/-- The characters of units, where the surrogates are in pairs. -/
def ofUnits? : List Nat → Option (List Char)
  | [] => some []
  | unit :: rest =>
    if unit < 0xD800 ∨ 0xE000 ≤ unit then (ofUnits? rest).map (Char.ofNat unit :: ·)
    else
      match rest with
      | [] => none
      | low :: rest =>
        if unit < 0xDC00 ∧ 0xDC00 ≤ low ∧ low < 0xE000 then
          (ofUnits? rest).map
            (Char.ofNat (0x10000 + (unit - 0xD800) * 0x400 + (low - 0xDC00)) :: ·)
        else none

def readString (source : List Char) : Option (String × List Char) := do
  let (units, rest) ← readUnits source
  let chars ← ofUnits? units
  return (String.ofList chars, rest)

def isWhole (digits : List Char) : Bool :=
  digits == ['0'] || digits.head?.any (· != '0')

def readSign (mark : Char) : List Char → Bool × List Char
  | [] => (false, [])
  | c :: rest => if c = mark then (true, rest) else (false, c :: rest)

def readFraction : List Char → Option (List Char × List Char)
  | [] => some ([], [])
  | c :: rest =>
    if c = '.' then
      let digits := rest.takeWhile Char.isDigit
      if digits.isEmpty then none else some (digits, rest.dropWhile Char.isDigit)
    else some ([], c :: rest)

def readExponent : List Char → Option (Option Int × List Char)
  | [] => some (none, [])
  | c :: rest =>
    if c = 'e' ∨ c = 'E' then
      let (negative, rest) := readSign '-' rest
      let rest := if negative then rest else (readSign '+' rest).2
      let digits := rest.takeWhile Char.isDigit
      let n : Int := Nat.ofDigitChars 10 digits 0
      if digits.isEmpty then none
      else some (some (if negative then -n else n), rest.dropWhile Char.isDigit)
    else some (none, c :: rest)

/-- The number with the given digits, refused where the nearest double is infinite. -/
def ofNumber? (negative : Bool) (whole fraction : List Char) (exponent? : Option Int) :
    Option Document :=
  if fraction = [] ∧ exponent? = none then
    let n : Int := Nat.ofDigitChars 10 whole 0
    some (int (if negative then -n else n))
  else
    let d : Decimal :=
      ⟨Nat.ofDigitChars 10 (whole ++ fraction) 0, exponent?.getD 0 - fraction.length⟩
    (Binary64.nearestMagnitude? d.value).map fun g => float (.ofMagnitude negative g)

def readNumber (source : List Char) : Option (Document × List Char) := do
  let (negative, rest) := readSign '-' source
  let whole := rest.takeWhile Char.isDigit
  guard (isWhole whole)
  let (fraction, rest) ← readFraction (rest.dropWhile Char.isDigit)
  let (exponent?, rest) ← readExponent rest
  (ofNumber? negative whole fraction exponent?).map (·, rest)

def isBlank (c : Char) : Bool :=
  c == ' ' || c == '\t' || c == '\n' || c == '\r'

def skip (source : List Char) : List Char :=
  source.dropWhile isBlank

def ofWord? (word : List Char) : Option Document :=
  if word = "null".toList then some null
  else if word = "true".toList then some (bool true)
  else if word = "false".toList then some (bool false)
  else none

def readPlain : List Char → Option (Document × List Char)
  | [] => none
  | c :: rest =>
    if c = '\x22' then (readString rest).map (Prod.map text id)
    else if c.isAlpha then
      (ofWord? ((c :: rest).takeWhile Char.isAlpha)).map (·, (c :: rest).dropWhile Char.isAlpha)
    else readNumber (c :: rest)

def readKey : List Char → Option (String × List Char)
  | [] => none
  | c :: rest =>
    if c = '\x22' then do
      let (key, rest) ← readString rest
      if (skip rest).head? = some ':' then some (key, (skip rest).tail) else none
    else none

mutual

/-- A value and the text behind it, with at most the given number of calls inside each other. -/
def readValue : Nat → List Char → Option (Document × List Char)
  | 0, _ => none
  | fuel + 1, source =>
    match skip source with
    | [] => none
    | c :: rest =>
      if c = '[' then
        if (skip rest).head? = some ']' then some (array [], (skip rest).tail)
        else (readItems fuel rest).map (Prod.map array id)
      else if c = '\x7b' then
        if (skip rest).head? = some '\x7d' then some (object [], (skip rest).tail)
        else (readEntries fuel rest).map (Prod.map object id)
      else readPlain (c :: rest)

def readItems : Nat → List Char → Option (List Document × List Char)
  | 0, _ => none
  | fuel + 1, source => do
    let (d, rest) ← readValue fuel source
    match skip rest with
    | [] => none
    | c :: rest =>
      if c = ',' then (readItems fuel rest).map (Prod.map (d :: ·) id)
      else if c = ']' then some ([d], rest)
      else none

def readEntries : Nat → List Char → Option (List (String × Document) × List Char)
  | 0, _ => none
  | fuel + 1, source => do
    let (key, rest) ← readKey (skip source)
    let (d, rest) ← readValue fuel rest
    match skip rest with
    | [] => none
    | c :: rest =>
      if c = ',' then (readEntries fuel rest).map (Prod.map ((key, d) :: ·) id)
      else if c = '\x7d' then some ([(key, d)], rest)
      else none

end

/-- The document that a text is. -/
def parse (source : String) : Option Document := do
  let (d, rest) ← readValue (source.length + 1) source.toList
  if (skip rest).isEmpty then some d else none

end RecordCodec.Document
