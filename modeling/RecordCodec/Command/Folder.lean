import RecordCodec.Value.Basic

namespace RecordCodec

/-- What stands at a path. -/
inductive Place where
  | file (data : Bytes)
  | folder
  | vacant
  | vacantFolder
  | noFolder
  | fileAsFolder
  | insideFile
  /-- A place that holds nothing and takes everything. -/
  | sink
  /-- Somewhere else, where nothing is known and a file can be written. -/
  | elsewhere
  | tooLong (asFolder : Bool)
  | noPath
deriving DecidableEq

namespace Place

inductive Failure where
  | notFound
  | isFolder
  | notFolder
  | tooLong
  | noPath
deriving DecidableEq

def read : Place → Except Failure Bytes
  | file data => .ok data
  | sink => .ok []
  | folder => .error .isFolder
  | vacant | vacantFolder | noFolder | elsewhere => .error .notFound
  | fileAsFolder | insideFile => .error .notFolder
  | tooLong _ => .error .tooLong
  | noPath => .error .noPath

def isFile : Place → Bool
  | file _ | sink => true
  | _ => false

def checkWritable : Place → Except Failure Unit
  | file _ | vacant | sink | elsewhere => .ok ()
  | folder | vacantFolder | fileAsFolder | tooLong true => .error .isFolder
  | noFolder => .error .notFound
  | insideFile => .error .notFolder
  | tooLong false => .error .tooLong
  | noPath => .error .noPath

end Place

namespace FileName

def split (path : String) : List String :=
  path.splitOn "/"

def parts (path : String) : List String :=
  (split path).filter fun part => part != "" && part != "."

/-- The slashes at the beginning of a path that matter: all of them mean one, but for two. -/
def root (path : String) : String :=
  if path.startsWith "//" && !path.startsWith "///" then "//"
  else if path.startsWith "/" then "/"
  else ""

def normal (path : String) : String :=
  let shown := root path ++ "/".intercalate (parts path)
  if shown = "" then "." else shown

def stem (path : String) : String :=
  let name := ((parts path).getLast?.getD "").toList
  let ending := (name.reverse.takeWhile (· != '.')).length
  if ending = 0 || name.length ≤ ending + 1 then String.ofList name
  else String.ofList (name.take (name.length - ending - 1))

end FileName

/-- The files below the folder in which a command runs, each with the parts of its path. -/
structure Folder where
  files : List (List String × Bytes)

namespace Folder

def ofFiles (files : List (String × Bytes)) : Folder :=
  ⟨files.map fun entry => (FileName.parts entry.1, entry.2)⟩

def hasFolder (f : Folder) (parts : List String) : Bool :=
  parts.isEmpty || f.files.any fun entry =>
    parts.isPrefixOf entry.1 && parts.length < entry.1.length

def maxNameBytes : Nat := 255

def maxPathBytes : Nat := 4095

/-- Where the command runs, by the parts from the root. The name of the folder is known to nobody;
the empty one, which no path can give, stands for it. -/
def working : List String := ["tmp", ""]

def systemFolders : List String :=
  ["bin", "dev", "etc", "home", "lib", "opt", "proc", "root", "run", "sbin", "sys", "tmp", "usr",
    "var"]

def standing (f : Folder) (parts : List String) : Place :=
  if working.isPrefixOf parts then
    let parts := parts.drop working.length
    match f.files.lookup parts with
    | some data => .file data
    | none => if f.hasFolder parts then .folder else .vacant
  else
    match parts with
    | [name] => if name ∈ systemFolders then .folder else .elsewhere
    | ["dev", "null"] => .sink
    | _ => .elsewhere

def asFolder : Place → Place
  | .file _ | .sink => .fileAsFolder
  | .vacant | .elsewhere => .vacantFolder
  | .tooLong _ => .tooLong true
  | p => p

def inside : Place → Place
  | .file _ | .sink => .insideFile
  | .vacant | .elsewhere => .noFolder
  | p => p

/-- Follows the parts of a path from the folder with the parts `here`; gives the parts at which it
ends too. -/
def follow (f : Folder) : List String → List String → List String × Place
  | here, [] => (here, .folder)
  | here, part :: rest =>
    if part = "" || part = "." then f.follow here rest
    else if part = ".." then f.follow here.dropLast rest
    else
      let there := here ++ [part]
      match if maxNameBytes < part.utf8ByteSize then .tooLong false else f.standing there with
      | .folder => f.follow there rest
      | p =>
        (there, if rest.isEmpty then p else if rest.all (· = "") then asFolder p else inside p)

def locate (f : Folder) (path : String) : List String × Place :=
  if path.contains '\x00' then ([], .noPath)
  else if path = "" then ([], .noFolder)
  else if maxPathBytes < path.utf8ByteSize then ([], .tooLong false)
  else f.follow (if path.startsWith "/" then [] else working) (FileName.split path)

def place (f : Folder) (path : String) : Place :=
  (f.locate path).2

def created? (f : Folder) (path : String) : Option String :=
  match f.locate path with
  | (parts, .vacant) => some ("/".intercalate (parts.drop working.length))
  | _ => none

end Folder

end RecordCodec
