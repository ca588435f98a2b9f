import RecordCodec.Text.Digit
import RecordCodec.Text.Word

namespace RecordCodec.Dataclass

/-- The class generated for a record type: what cannot stand in an identifier becomes an
underscore, and a digit is not left in front. -/
def className (name : String) : String :=
  let chars := name.toList.map fun c => if Text.isWord c then c else '_'
  match chars with
  | [] => "_"
  | c :: _ => if Text.isDigit c then String.ofList ('_' :: chars) else String.ofList chars

def keywords : List String :=
  ["False", "None", "True", "and", "as", "assert", "async", "await", "break", "class", "continue",
    "def", "del", "elif", "else", "except", "finally", "for", "from", "global", "if", "import",
    "in", "is", "lambda", "nonlocal", "not", "or", "pass", "raise", "return", "try", "while",
    "with", "yield"]

def classMembers : List String :=
  ["SIZE", "read", "write"]

/-- The attribute generated for a member: the reserved mark becomes an underscore, and a name that
is taken gets one at its end. -/
def attributeName (name : String) : String :=
  let plain := match name.toList with
    | '#' :: rest => String.ofList ('_' :: rest)
    | _ => name
  if plain ∈ keywords ∨ plain ∈ classMembers then plain ++ "_" else plain

end RecordCodec.Dataclass
