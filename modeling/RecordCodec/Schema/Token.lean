import RecordCodec.Number.Limit

namespace RecordCodec.Schema

inductive Token where
  | word (text : List Char)
  | marked (text : List Char)
  | number (digits : List Char)
  | symbol (c : Char)
deriving DecidableEq

namespace Token

def isSpace (c : Char) : Bool :=
  c == ' ' || c == '\t'

def isInitial (c : Char) : Bool :=
  c.isAlpha || c == '_'

def isInner (c : Char) : Bool :=
  c.isAlphanum || c == '_'

def isSymbol (c : Char) : Bool :=
  c == '[' || c == ']' || c == '\x7b' || c == '\x7d' || c == ':' || c == ','

def scan : List Char → Option (List Token)
  | [] => some []
  | c :: rest =>
    if isSpace c then scan rest
    else if isSymbol c then (scan rest).map (symbol c :: ·)
    else if isInitial c then
      (scan (rest.dropWhile isInner)).map (word (c :: rest.takeWhile isInner) :: ·)
    else if c.isDigit then
      (scan (rest.dropWhile Char.isDigit)).map (number (c :: rest.takeWhile Char.isDigit) :: ·)
    else if c == '#' && (rest.head?.any isInitial) then
      (scan (rest.dropWhile isInner)).map (marked (c :: rest.takeWhile isInner) :: ·)
    else none
termination_by text => text.length
decreasing_by
  all_goals simp only [List.length_cons]
  · omega
  · omega
  · have := (List.dropWhile_sublist (l := rest) isInner).length_le; omega
  · have := (List.dropWhile_sublist (l := rest) Char.isDigit).length_le; omega
  · have := (List.dropWhile_sublist (l := rest) isInner).length_le; omega

def nameText? : Token → Option String
  | word text | marked text => some (String.ofList text)
  | _ => none

def numberValue (digits : List Char) : Nat :=
  digits.foldl (fun n d => n * 10 + (d.toNat - '0'.toNat)) 0

/-- Whether a token is no number that is too long to be read; zeros in front count. -/
def isReadable : Token → Bool
  | number digits => digits.length ≤ Numeral.maxDecimalDigits
  | _ => true

end Token

end RecordCodec.Schema
