import RecordCodec.Registry.Basic

namespace RecordCodec

inductive LogEntry where
  | registered (name : String) (size? : Option Int)
  | compiling (path name : String)
  | compiled (record : String) (members : Nat) (size : Int)

namespace LogEntry

def ofDescriptor (d : Descriptor) : LogEntry :=
  registered d.name d.size?

def text : LogEntry → String
  | registered name size? =>
    let size := (size?.map intText).getD "None"
    s!"DEBUG packedstruct.codec.registry: Registered type {name} (size={size})"
  | compiling path name => s!"INFO packedstruct.schema.cli: Compiling {path} as {name}"
  | compiled record members size =>
    s!"DEBUG packedstruct.schema.compiler: Compiled struct {record}: {members} fields, {size} bytes"

end LogEntry

abbrev Log := List LogEntry

def Log.text (log : Log) : String :=
  String.join (log.map fun entry => entry.text ++ "\n")

end RecordCodec
