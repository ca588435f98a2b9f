import RecordCodec.ByteOrder
import RecordCodec.Command.Arguments
import RecordCodec.Dataclass.Source
import RecordCodec.Number.Numeral

namespace RecordCodec

inductive Command where
  | info (asDocument : Bool)
  | generate (record? : Option String) (output runtime : String)
  | decode (record? : Option String) (input : String) (offset : Int) (order : ByteOrder)

inductive CommandName where
  | info
  | generate
  | decode

structure Invocation where
  verbose : Bool
  name : CommandName
  arguments : Arguments

namespace Command

def groupOptions : List OptionSpec :=
  [⟨"verbose", "--verbose", some 'v', false⟩]

def schemaOption : OptionSpec :=
  ⟨"schema", "--schema", some 's', true⟩

def recordOption : OptionSpec :=
  ⟨"name", "--name", some 'n', true⟩

def infoOptions : List OptionSpec :=
  [schemaOption, ⟨"json", "--json", none, false⟩]

def generateOptions : List OptionSpec :=
  [schemaOption, recordOption, ⟨"output", "--output", some 'o', true⟩,
    ⟨"runtime", "--runtime-import", none, true⟩]

def decodeOptions : List OptionSpec :=
  [schemaOption, recordOption, ⟨"input", "--input", some 'i', true⟩,
    ⟨"offset", "--offset", none, true⟩, ⟨"endian", "--endian", none, true⟩]

def recordName? (a : Arguments) : Option String :=
  (a.value? "name").filter (· != "")

def orderNamed? : String → Option ByteOrder
  | "big" => some .big
  | "little" => some .little
  | _ => none

def offset? (a : Arguments) : Option Int :=
  Numeral.parse? .ten ((a.value? "offset").getD "0").toList

def order? (a : Arguments) : Option ByteOrder :=
  orderNamed? ((a.value? "endian").getD "big")

end Command

namespace CommandName

def ofText? : String → Option CommandName
  | "info" => some .info
  | "gen" => some .generate
  | "decode" => some .decode
  | _ => none

def options : CommandName → List OptionSpec
  | info => Command.infoOptions
  | generate => Command.generateOptions
  | decode => Command.decodeOptions

end CommandName

namespace Invocation

def ofArguments? (args : List String) : Option Invocation := do
  let group ← Arguments.ofList? Command.groupOptions false args
  match group.rest with
  | [] => none
  | name :: args =>
    let name ← CommandName.ofText? name
    return ⟨group.has "verbose", name, ← Arguments.ofList? name.options true args⟩

def schemas (i : Invocation) : List String :=
  i.arguments.values "schema"

def command? (i : Invocation) : Option Command := do
  let a := i.arguments
  guard (a.rest.isEmpty && !i.schemas.isEmpty)
  match i.name with
  | .info => return .info (a.has "json")
  | .generate =>
    return .generate (Command.recordName? a) (← a.value? "output")
      ((a.value? "runtime").getD Dataclass.defaultRuntime)
  | .decode =>
    return .decode (Command.recordName? a) (← a.value? "input") (← Command.offset? a)
      (← Command.order? a)

def paths (i : Invocation) : List String :=
  i.schemas ++ i.arguments.values "input" ++ i.arguments.values "output"

end Invocation

end RecordCodec
