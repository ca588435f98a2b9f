import RecordCodec.Error
import RecordCodec.Schema.Token
import RecordCodec.Text.Blank
import RecordCodec.Text.Lines

namespace RecordCodec.Schema

/-- The number of bits that a line gives to a run; unlike that of a layout it may be zero. -/
structure RunSpec where
  name : String
  width : Nat
deriving DecidableEq

structure Declaration where
  typeName : String
  name : String
  count : Nat
  runs : Option (List RunSpec)
  line : Int
  text : String
  count_pos : 0 < count

inductive Shape where
  | single (typeName name : String)
  | array (typeName : String) (count : Nat) (name : String)
  | divided (typeName : String) (runs : List RunSpec) (name : String)
deriving DecidableEq

namespace Shape

def runList : List Token → Option (List RunSpec × String)
  | [run, .symbol ':', .number width, .symbol '\x7d', name] => do
    return ([⟨← run.nameText?, Token.numberValue width⟩], ← name.nameText?)
  | run :: .symbol ':' :: .number width :: .symbol ',' :: rest => do
    let (runs, name) ← runList rest
    return (⟨← run.nameText?, Token.numberValue width⟩ :: runs, name)
  | _ => none

def containerNames : List String :=
  Container.all.map Container.name

def ofTokens : List Token → Option Shape
  | [.word type, name] => do
    return single (String.ofList type) (← name.nameText?)
  | [.word type, .symbol '[', .number count, .symbol ']', name] => do
    return array (String.ofList type) (Token.numberValue count) (← name.nameText?)
  | .word type :: .symbol '\x7b' :: rest => do
    guard (String.ofList type ∈ containerNames)
    let (specs, name) ← runList rest
    return divided (String.ofList type) specs name
  | _ => none

end Shape

namespace Declaration

def ofShape (text : String) (line : Int) : Shape → Except Error Declaration
  | .single type name => .ok ⟨type, name, 1, none, line, text, by decide⟩
  | .divided type specs name => .ok ⟨type, name, 1, some specs, line, text, by decide⟩
  | .array type count name =>
    if h : 0 < count then .ok ⟨type, name, count, none, line, text, h⟩
    else .error (.arrayLength line count text)

/-- The declaration on one line of a schema. Its numbers are read once its shape is known. -/
def ofLine (text : String) (line : Int) : Except Error Declaration :=
  match Token.scan text.toList with
  | none => .error (.malformedLine line text)
  | some tokens =>
    match Shape.ofTokens tokens with
    | none => .error (.malformedLine line text)
    | some shape =>
      if tokens.all Token.isReadable then ofShape text line shape else .error .numeralTooLong

end Declaration

/-- The lines of a schema without carriage returns and without blanks at their ends. -/
def lines (text : String) : List (List Char) :=
  (Text.splitLines (text.toList.filter (· != '\r'))).map Text.trim

def declarationsFrom (line : Nat) : List (List Char) → Except Error (List Declaration)
  | [] => .ok []
  | text :: rest =>
    if text.isEmpty then declarationsFrom (line + 1) rest
    else do
      let d ← Declaration.ofLine (String.ofList text) line
      let ds ← declarationsFrom (line + 1) rest
      return d :: ds

def parse (text : String) : Except Error (List Declaration) :=
  declarationsFrom 1 (lines text)

end RecordCodec.Schema
