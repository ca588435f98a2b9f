import RecordCodec.Codec.Read
import RecordCodec.Command.Folder
import RecordCodec.Command.Invocation
import RecordCodec.Command.Listing
import RecordCodec.Command.Log
import RecordCodec.Schema.Compile
import RecordCodec.Value.Projection

namespace RecordCodec.Command

inductive Halt where
  | refused (e : Error)
  | failed (e : Error)
  | unusable (f : Place.Failure)
  | notText
  | notDocument

/-- What a run gives when nothing stops it before it gives anything. -/
structure Product where
  output : String
  file? : Option (String × String)
  halt? : Option Halt

def Halt.ofError (e : Error) : Halt :=
  if e.kind.isRefusal then .refused e else .failed e

def unifyLineEnds : List Char → List Char
  | [] => []
  | '\r' :: '\n' :: rest => '\n' :: unifyLineEnds rest
  | c :: rest => (if c = '\r' then '\n' else c) :: unifyLineEnds rest

def schemaText? (data : Bytes) : Option String :=
  (String.fromUTF8? ⟨data.toArray⟩).map fun s => String.ofList (unifyLineEnds s.toList)

variable (place : String → Place)

def compileEach (reg : Registry) :
    List String → Log × Except Halt (Registry × List RecordType)
  | [] => ([], .ok (reg, []))
  | path :: rest =>
    match (place path).read with
    | .error f => ([], .error (.unusable f))
    | .ok data =>
      match schemaText? data with
      | none => ([], .error .notText)
      | some text =>
        let name := FileName.stem path
        let started := LogEntry.compiling (FileName.normal path) name
        match reg.compile text name with
        | .error e => ([started], .error (.ofError e))
        | .ok (record, reg) =>
          let (log, result) := compileEach reg rest
          (started :: .ofDescriptor (.record record) ::
              .compiled record.name record.members.length record.size :: log,
            result.map fun (reg, records) => (reg, record :: records))

def withSchemas (schemas : List String)
    (next : Registry → List RecordType → Except Halt Product) : Log × Except Halt Product :=
  let (log, result) := compileEach place .standard schemas
  (Registry.containerTypes.map .ofDescriptor ++ log,
    result.bind fun (reg, records) => next reg records)

def refuse {α : Type} (result : Except Error α) : Except Halt α :=
  result.mapError .ofError

def documentLine (d : Document) : Except Halt String :=
  if d.isWritable then .ok (d.print ++ "\n") else .error (.failed .numberTooLong)

def chosenName (record? : Option String) (records : List RecordType) : String :=
  record?.getD ((records.getLast?.map RecordType.name).getD "")

def listAll : List Placement → Product
  | [] => ⟨"", none, none⟩
  | p :: rest =>
    if !p.isWritable then ⟨"", none, some (.failed .numberTooLong)⟩
    else if !Text.isReadable p.title then ⟨"", none, some (.failed .badColour)⟩
    else
      let others := listAll rest
      { others with output := p.listing ++ others.output }

def showPlacements (asDocument : Bool) (placements : List Placement) : Except Halt Product := do
  if asDocument then
    let text ← documentLine (.object (placements.map fun p => (p.name, p.document)))
    return ⟨text, none, none⟩
  else return listAll placements

def writeClass (reg : Registry) (record output runtime : String) : Except Halt Product := do
  let r ← refuse (reg.lookupRecord record)
  let text ← refuse (Dataclass.render reg r runtime)
  (place output).checkWritable.mapError .unusable
  return ⟨"", some (output, text), none⟩

def showRecord (reg : Registry) (data : Bytes) (record : String) (offset : Int)
    (order : ByteOrder) : Except Halt Product := do
  let v ← refuse (Codec.read reg (.flat data false) (.int offset) record order.toValue)
  match Document.ofValue? v.project with
  | none => throw .notDocument
  | some d => return ⟨← documentLine d, none, none⟩

/-- Runs a command; the input of `decode` is read before the schemas are. -/
def run (schemas : List String) : Command → Log × Except Halt Product
  | .info asDocument =>
    withSchemas place schemas fun _ records =>
      showPlacements asDocument (records.map Placement.ofRecord)
  | .generate record? output runtime =>
    withSchemas place schemas fun reg records =>
      writeClass place reg (chosenName record? records) output runtime
  | .decode record? input offset order =>
    match (place input).read with
    | .error f => ([], .error (.unusable f))
    | .ok data =>
      withSchemas place schemas fun reg records =>
        showRecord reg data (chosenName record? records) offset order

structure Report where
  output : String
  log : String
  file? : Option (String × String)
  halt? : Option Halt

def Report.exitCode (r : Report) : UInt32 :=
  if r.halt?.isSome then 1 else 0

def Report.ofRun (verbose : Bool) (log : Log) (result : Except Halt Product) : Report :=
  let log := if verbose then log.text else ""
  match result with
  | .ok p => ⟨p.output, log, p.file?, p.halt?⟩
  | .error (.refused e) =>
    ⟨"Error: " ++ e.message?.getD "" ++ "\n", log, none, some (.refused e)⟩
  | .error h => ⟨"", log, none, some h⟩

inductive Refusal where
  | malformed
  | noPath

def checkOption (a : Arguments) : String → Except Refusal Unit
  | "schema" => (a.values "schema").forM fun path =>
      if place path = .noPath then .error .noPath
      else if (place path).isFile then .ok ()
      else .error .malformed
  | "offset" => if (offset? a).isSome then .ok () else .error .malformed
  | "endian" => if (order? a).isSome then .ok () else .error .malformed
  | _ => .ok ()

/-- Looks at the options in the order in which they are given, then at the whole. -/
def commandOf (i : Invocation) : Except Refusal Command := do
  i.arguments.options.forM fun entry => checkOption place i.arguments entry.1
  match i.command? with
  | some c => return c
  | none => throw .malformed

/-- Runs what a command line asks for. Gives nothing if it is malformed or names a schema that is
no file. -/
def execute? (args : List String) : Option Report := do
  let i ← Invocation.ofArguments? args
  match commandOf place i with
  | .error .malformed => none
  | .error .noPath => return .ofRun i.verbose [] (.error (.unusable .noPath))
  | .ok command =>
    let (log, result) := run place i.schemas command
    return .ofRun i.verbose log result

end RecordCodec.Command
