import RecordCodec.Bitfield.Basic
import RecordCodec.Number.Limit
import RecordCodec.Number.Notation

namespace RecordCodec

abbrev Bytes := List UInt8

/-- What shows of an object of another type than those below. It has no text if a number in it is too
long to be written, and it may turn itself into a float. -/
structure Object where
  kind : String
  text? : Option String
  float? : Option Binary64
  isTrue : Bool
  isHashable : Bool
deriving DecidableEq

inductive Collection where
  | list
  | tuple
  | dict
  | other (o : Object)
deriving DecidableEq

namespace Collection

def kind : Collection → String
  | list => "list"
  | tuple => "tuple"
  | dict => "dict"
  | other o => o.kind

def written : Collection → String
  | list => "[...]"
  | tuple => "(...)"
  | dict => "\x7b...\x7d"
  | other o => o.text?.getD ""

end Collection

/-- Not here are types derived from these, objects that turn themselves into integers, and keys of
mappings that are no text. -/
inductive Value where
  | none
  | bool (b : Bool)
  | int (n : Int)
  | float (x : Binary64)
  | text (s : String)
  | bytes (data : Bytes)
  | bytearray (data : Bytes)
  | list (items : List Value)
  | tuple (items : List Value)
  | dict (entries : List (String × Value))
  | bits (b : Bitfield)
  /-- A collection without what it holds: one inside itself, or of another type. -/
  | again (c : Collection)

namespace Value

instance : Inhabited Value := ⟨.none⟩

def kind : Value → String
  | none => "NoneType"
  | bool _ => "bool"
  | int _ => "int"
  | float _ => "float"
  | text _ => "str"
  | bytes _ => "bytes"
  | bytearray _ => "bytearray"
  | list _ => "list"
  | tuple _ => "tuple"
  | dict _ => "dict"
  | bits b => b.container.name
  | again c => c.kind

def isTrue : Value → Bool
  | none => false
  | bool b => b
  | int n => n != 0
  | float x => !x.isZero
  | text s => !s.isEmpty
  | bytes data | bytearray data => !data.isEmpty
  | list items | tuple items => !items.isEmpty
  | dict entries => !entries.isEmpty
  | again (.other o) => o.isTrue
  | bits _ | again _ => true

mutual

/-- Whether a value can be a key: nothing in it may change. -/
def isHashable : Value → Bool
  | again (.other o) => o.isHashable
  | bytearray _ | list _ | dict _ | bits _ | again _ => false
  | tuple items => areHashable items
  | _ => true

def areHashable : List Value → Bool
  | [] => true
  | v :: rest => isHashable v && areHashable rest

end

def boolText (b : Bool) : String :=
  if b then "True" else "False"

mutual

def written : Value → String
  | none => "None"
  | bool b => boolText b
  | int n => intText n
  | float x => x.text
  | text s => Text.quoted s
  | bytes data => "b" ++ Text.quotedBytes data
  | bytearray data => "bytearray(b" ++ Text.quotedMutable data ++ ")"
  | list items => "[" ++ ", ".intercalate (writtenAll items) ++ "]"
  | tuple [item] => "(" ++ written item ++ ",)"
  | tuple items => "(" ++ ", ".intercalate (writtenAll items) ++ ")"
  | dict entries => "\x7b" ++ ", ".intercalate (writtenEntries entries) ++ "\x7d"
  | bits b => b.text
  | again c => c.written

def writtenAll : List Value → List String
  | [] => []
  | v :: rest => written v :: writtenAll rest

def writtenEntries : List (String × Value) → List String
  | [] => []
  | (key, v) :: rest => (Text.quoted key ++ ": " ++ written v) :: writtenEntries rest

end

mutual

def isWritable : Value → Bool
  | int n => Numeral.isWritable n
  | list items | tuple items => areWritable items
  | dict entries => areEntriesWritable entries
  | again (.other o) => o.text?.isSome
  | _ => true

def areWritable : List Value → Bool
  | [] => true
  | v :: rest => isWritable v && areWritable rest

def areEntriesWritable : List (String × Value) → Bool
  | [] => true
  | (_, v) :: rest => isWritable v && areEntriesWritable rest

end

mutual

/-- Whether a value is nowhere cut off. -/
def isWhole : Value → Bool
  | again _ => false
  | list items | tuple items => areWhole items
  | dict entries => areEntriesWhole entries
  | _ => true

def areWhole : List Value → Bool
  | [] => true
  | v :: rest => isWhole v && areWhole rest

def areEntriesWhole : List (String × Value) → Bool
  | [] => true
  | (_, v) :: rest => isWhole v && areEntriesWhole rest

end

def toInt? : Value → Option Int
  | int n => some n
  | bool b => some (if b then 1 else 0)
  | _ => Option.none

def eqInt (n : Int) : Value → Bool
  | int m => m == n
  | bool b => (if b then 1 else 0) == n
  | float x => x.eqInt n
  | _ => false

/-- The items of a sequence; those of text are its characters, those of byte strings integers. -/
def items? : Value → Option (List Value)
  | list items | tuple items => some items
  | text s => some (s.toList.map fun c => text (String.ofList [c]))
  | bytes data | bytearray data => some (data.map fun b => int b.toNat)
  | _ => Option.none

end Value

end RecordCodec
