import RecordCodec.Text.Printable

namespace RecordCodec.Text

def paddedDigits (base width n : Nat) : List Char :=
  let digits := Nat.toDigits base n
  List.replicate (width - digits.length) '0' ++ digits

def quoteMark (text : List Char) : Char :=
  if text.contains '\x27' && !text.contains '\x22' then '\x22' else '\x27'

def commonEscape? (mark c : Char) : Option (List Char) :=
  if c == mark || c == '\\' then some ['\\', c]
  else if c == '\t' then some ['\\', 't']
  else if c == '\n' then some ['\\', 'n']
  else if c == '\r' then some ['\\', 'r']
  else none

def escapeChar (mark c : Char) : List Char :=
  match commonEscape? mark c with
  | some escaped => escaped
  | none =>
    let n := c.toNat
    if isPrintable c then [c]
    else if n < 0x100 then '\\' :: 'x' :: paddedDigits 16 2 n
    else if n < 0x10000 then '\\' :: 'u' :: paddedDigits 16 4 n
    else '\\' :: 'U' :: paddedDigits 16 8 n

/-- Bytes are shown through the characters of the same code; beyond ASCII all are escaped. -/
def escapeByte (mark c : Char) : List Char :=
  match commonEscape? mark c with
  | some escaped => escaped
  | none =>
    if 32 ≤ c.toNat && c.toNat < 127 then [c] else '\\' :: 'x' :: paddedDigits 16 2 c.toNat

/-- In a byte string that can change, single marks are escaped whatever the marks around it. -/
def escapeMutable (mark c : Char) : List Char :=
  if c == '\x27' then ['\\', c] else escapeByte mark c

def quoteChars (escape : Char → Char → List Char) (text : List Char) : List Char :=
  let mark := quoteMark text
  mark :: text.flatMap (escape mark) ++ [mark]

def quoted (s : String) : String :=
  String.ofList (quoteChars escapeChar s.toList)

def quotedBytes (bytes : List UInt8) : String :=
  String.ofList (quoteChars escapeByte (bytes.map fun b => Char.ofNat b.toNat))

def quotedMutable (bytes : List UInt8) : String :=
  String.ofList (quoteChars escapeMutable (bytes.map fun b => Char.ofNat b.toNat))

end RecordCodec.Text
