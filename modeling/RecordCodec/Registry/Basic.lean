import RecordCodec.Descriptor

namespace RecordCodec

structure Registry where
  entries : List (String × Descriptor)

namespace Registry

def primitive : Registry :=
  ⟨Scalar.primitives.map fun s => (s.name, .scalar (.ofScalar s))⟩

def names (r : Registry) : List String :=
  r.entries.map Prod.fst

def size (r : Registry) : Nat :=
  r.entries.length

def contains (r : Registry) (name : String) : Bool :=
  r.names.contains name

def find? (r : Registry) (name : String) : Option Descriptor :=
  r.entries.lookup name

def lookup (r : Registry) (name : String) : Except Error Descriptor :=
  match r.find? name with
  | some d => .ok d
  | none => .error (.unknownType name)

def lookupRecord (r : Registry) (name : String) : Except Error RecordType :=
  match r.find? name with
  | some (.record t) => .ok t
  | some (.scalar _) => .error (.notRecord name)
  | none => .error (.unknownType name)

def records (r : Registry) : List RecordType :=
  r.entries.filterMap fun entry =>
    match entry.2 with
    | .record t => some t
    | .scalar _ => none

def maxNesting : Nat := 496

/-- How many types may be nested in each other. A nesting in which none comes up again is never
deeper than there are types. -/
def nestingBound (r : Registry) : Nat :=
  max maxNesting (r.size + 1)

inductive Candidate where
  | descriptor (d : Descriptor)
  | value (kind : String)

def register (r : Registry) (name : String) (candidate : Candidate) : Except Error Registry :=
  if Scalar.isPrimitiveName name then .error (.primitiveName name)
  else if r.contains name then .error (.typeTaken name)
  else
    match candidate with
    | .value kind => .error (.notDescriptor kind name)
    | .descriptor d =>
      if d.name = name then .ok ⟨r.entries ++ [(name, d)]⟩ else .error (.misnamed d.name name)

def registerEach (r : Registry) : List Descriptor → Except Error Unit × Registry
  | [] => (.ok (), r)
  | d :: rest =>
    match r.register d.name (.descriptor d) with
    | .error e => (.error e, r)
    | .ok r => r.registerEach rest

def containerTypes : List Descriptor :=
  Scalar.containers.map fun s => .scalar (.ofScalar s)

def registerContainers (r : Registry) : Except Error Unit × Registry :=
  r.registerEach containerTypes

/-- The registry of the primitive types and the bitfield containers. -/
def standard : Registry :=
  (registerContainers primitive).2

end Registry

end RecordCodec
