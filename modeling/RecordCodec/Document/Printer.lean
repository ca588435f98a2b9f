import RecordCodec.Document.Basic

namespace RecordCodec.Document

def escapeUnit (unit : Nat) : List Char :=
  '\\' :: 'u' :: Text.paddedDigits 16 4 unit

/-- The UTF-16 units of a character: one, or a pair of surrogates. -/
def units (c : Char) : List Nat :=
  let n := c.toNat
  if n < 0x10000 then [n]
  else [0xD800 + (n - 0x10000) / 0x400, 0xDC00 + (n - 0x10000) % 0x400]

def escape (c : Char) : List Char :=
  match c with
  | '\x22' => ['\\', '\x22']
  | '\\' => ['\\', '\\']
  | '\x08' => ['\\', 'b']
  | '\t' => ['\\', 't']
  | '\n' => ['\\', 'n']
  | '\x0c' => ['\\', 'f']
  | '\r' => ['\\', 'r']
  | c => if ' ' ≤ c ∧ c ≤ '~' then [c] else (units c).flatMap escapeUnit

def quote (s : String) : List Char :=
  '\x22' :: s.toList.flatMap escape ++ ['\x22']

def lineStart (level : Nat) : List Char :=
  '\n' :: List.replicate (2 * level) ' '

def enclose (left right : Char) (level : Nat) (parts : List (List Char)) : List Char :=
  if parts.isEmpty then [left, right]
  else
    left :: List.intercalate [','] (parts.map (lineStart (level + 1) ++ ·)) ++
      lineStart level ++ [right]

mutual

def charsAt (level : Nat) : Document → List Char
  | null => "null".toList
  | bool b => (if b then "true" else "false").toList
  | int n => (intText n).toList
  | float x => (x.textWith "Infinity" "NaN").toList
  | text s => quote s
  | array items => enclose '[' ']' level (charsOfItems (level + 1) items)
  | object entries => enclose '\x7b' '\x7d' level (charsOfEntries (level + 1) entries)

def charsOfItems (level : Nat) : List Document → List (List Char)
  | [] => []
  | d :: rest => charsAt level d :: charsOfItems level rest

def charsOfEntries (level : Nat) : List (String × Document) → List (List Char)
  | [] => []
  | (key, d) :: rest =>
    (quote key ++ ':' :: ' ' :: charsAt level d) :: charsOfEntries level rest

end

def print (d : Document) : String :=
  String.ofList (charsAt 0 d)

end RecordCodec.Document
