namespace RecordCodec

structure OptionSpec where
  key : String
  long : String
  letter : Option Char
  takesValue : Bool

structure Arguments where
  options : List (String × String)
  rest : List String

namespace Arguments

variable (specs : List OptionSpec)

def findLetter (c : Char) : Option OptionSpec :=
  specs.find? fun s => s.letter == some c

/-- Takes letters behind a dash apart. If the last one lacks its value, gives its key too. -/
def letters : List Char → Option (List (String × String) × Option String)
  | [] => some ([], none)
  | c :: rest => do
    let spec ← findLetter specs c
    if spec.takesValue then
      if rest.isEmpty then return ([], some spec.key)
      return ([(spec.key, String.ofList rest)], none)
    let (found, open?) ← letters rest
    return ((spec.key, "") :: found, open?)

def splitValue (arg : List Char) : String × Option String :=
  (String.ofList (arg.takeWhile (· != '=')),
    match arg.dropWhile (· != '=') with
    | [] => none
    | _ :: value => some (String.ofList value))

def ofOption (arg : List Char) : Option (List (String × String) × Option String) :=
  let (name, value?) := splitValue arg
  match specs.find? fun s => s.long == name with
  | some spec =>
    match spec.takesValue, value? with
    | true, some value => some ([(spec.key, value)], none)
    | true, none => some ([], some spec.key)
    | false, none => some ([(spec.key, "")], none)
    | false, some _ => none
  | none => if arg.take 2 = ['-', '-'] then none else letters specs arg.tail

def isOption (arg : List Char) : Bool :=
  arg.head? == some '-' && arg.length != 1

/-- Takes a command line apart; without `mixed`, the options end where the rest begins. Fails at an
option that is unknown or has a value too many or too few. -/
def ofList? (mixed : Bool) : List String → Option Arguments
  | [] => some ⟨[], []⟩
  | "--" :: args => some ⟨[], args⟩
  | arg :: args =>
    if isOption arg.toList then
      match ofOption specs arg.toList, args with
      | none, _ => none
      | some (found, none), args => do
        let a ← ofList? mixed args
        return { a with options := found ++ a.options }
      | some (_, some _), [] => none
      | some (found, some key), value :: args => do
        let a ← ofList? mixed args
        return { a with options := found ++ (key, value) :: a.options }
    else if mixed then do
      let a ← ofList? mixed args
      return { a with rest := arg :: a.rest }
    else some ⟨[], arg :: args⟩

def values (a : Arguments) (key : String) : List String :=
  a.options.filterMap fun entry => if entry.1 == key then some entry.2 else none

def value? (a : Arguments) (key : String) : Option String :=
  (a.values key).getLast?

def has (a : Arguments) (key : String) : Bool :=
  (a.value? key).isSome

end Arguments

end RecordCodec
