import RecordCodec.Dataclass.Name
import RecordCodec.Registry.Basic
import RecordCodec.Schema.Placement

namespace RecordCodec.Dataclass

def isPlaced (found : List Placement) (name : String) : Bool :=
  found.any fun p => p.name == name

def insertPlacement (p : Placement) : List Placement → List Placement
  | [] => [p]
  | q :: rest => if q.name = p.name then p :: rest else q :: insertPlacement p rest

/-- Adds a record type to those found, after the ones that its members refer to. The bound on the
nesting is only met by types that contain themselves. -/
def collectWithin (reg : Registry) :
    Nat → RecordType → List Placement → Except Error (List Placement)
  | 0, _, _ => .error .endless
  | nesting + 1, r, found =>
    if isPlaced found r.name then .ok found
    else do
      let found ← r.members.foldlM
        (fun found m =>
          if isPlaced found m.typeName then .ok found
          else
            match reg.lookup m.typeName with
            | .error e => .error e
            | .ok (.scalar _) => .ok found
            | .ok (.record inner) => collectWithin reg nesting inner found) found
      return insertPlacement (.ofRecord r) found

/-- The placements of a record type and of all that it is made of, dependencies first. -/
def collect (reg : Registry) (r : RecordType) : Except Error (List Placement) :=
  collectWithin reg (reg.size + 2) r []

def firstClash? (rename : String → String) (seen : List String) :
    List String → Option (String × String)
  | [] => none
  | name :: rest =>
    match seen.find? fun other => rename other == rename name && other != name with
    | some other => some (other, name)
    | none => firstClash? rename (seen ++ [name]) rest

/-- Fails at the first record type whose class, or two of whose attributes, would clash. -/
def checkNames (seen : List String) : List Placement → Except Error Unit
  | [] => .ok ()
  | p :: rest => do
    match seen.find? fun other => className other == className p.name && other != p.name with
    | some other => throw (.classClash other p.name (className p.name))
    | none =>
      match firstClash? attributeName [] (p.slots.map Slot.name) with
      | some (first, second) =>
        throw (.attributeClash first second p.name (attributeName second))
      | none => checkNames (seen ++ [p.name]) rest

end RecordCodec.Dataclass
