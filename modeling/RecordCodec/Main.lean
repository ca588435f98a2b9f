import RecordCodec.Command.Run

namespace RecordCodec

def lookAt (path : String) : IO Place := do
  try
    return .file (← IO.FS.readBinFile path).data.toList
  catch
    | .inappropriateType .. => return .folder
    | _ => return .vacant

def surroundings (args : List String) : IO (String → Place) := do
  let paths := ((Invocation.ofArguments? args).map Invocation.paths).getD []
  let places ← paths.mapM fun path => return (path, ← lookAt path)
  return fun path => (places.lookup path).getD .vacant

def complaint? : Command.Halt → Option String
  | .refused _ => none
  | .failed e => some (e.message?.getD "a number is too long")
  | .unusable .notFound => some "no such file"
  | .unusable .isFolder => some "is a folder"
  | .unusable .notFolder => some "is not a folder"
  | .unusable .tooLong => some "a name is too long"
  | .unusable .noPath => some "is no path"
  | .notText => some "a schema is not UTF-8"
  | .notDocument => some "a value has no JSON form"

def leave (report : Command.Report) : IO UInt32 := do
  IO.print report.output
  IO.eprint report.log
  if let some text := report.halt?.bind complaint? then IO.eprintln text
  if let some (path, text) := report.file? then IO.FS.writeFile path text
  return report.exitCode

end RecordCodec

def main (args : List String) : IO UInt32 := do
  match RecordCodec.Command.execute? (← RecordCodec.surroundings args) args with
  | none =>
    IO.eprintln "usage: packedstruct [-v] (info | gen | decode) -s SCHEMA ..."
    return 2
  | some report => RecordCodec.leave report
