import RecordCodec.Registry.Basic
import RecordCodec.Schema.Declaration

namespace RecordCodec

namespace Schema.Declaration

def layoutOf (d : Declaration) (runs : List (Value × Value)) : Except Error Layout :=
  match Container.ofName? d.typeName with
  | none => .error (.runsNotAllowed d.line d.typeName)
  | some c => do
    let l ← Layout.ofPairs runs
    let l ← l.fit c.width d.typeName
    return l.1

def runPairs (d : Declaration) : Option (List (Value × Value)) :=
  d.runs.map fun specs => specs.map fun r => (.text r.name, .int r.width)

def memberWith (d : Declaration) (reg : Registry) (runs : Option (List (Value × Value))) :
    Except Error Member := do
  if d.typeName = Scalar.string.name then throw (.stringMember d.line)
  let descriptor ← reg.lookup d.typeName
  match descriptor.size? with
  | none => throw (.unsizedMember d.line d.typeName)
  | some size =>
    let layout ← runs.mapM d.layoutOf
    return {
      typeName := d.typeName
      name := d.name
      elementSize := size
      count := d.count
      runs := layout.map fun l => l.fields.map fun f => (f.name, (f.width : Int))
      count_pos := d.count_pos }

def member (d : Declaration) (reg : Registry) : Except Error Member :=
  d.memberWith reg d.runPairs

/-- The members that declarations stand for; a name seen before is refused before its type is
looked up. -/
def membersOf (reg : Registry) (record : String) (seen : List String) :
    List Declaration → Except Error (List Member)
  | [] => .ok []
  | d :: rest => do
    if d.name ∈ seen then throw (.repeatedMember d.line d.name record)
    let m ← d.member reg
    let ms ← membersOf reg record (d.name :: seen) rest
    return m :: ms

end Schema.Declaration

namespace Registry

def compile (reg : Registry) (text name : String) : Except Error (RecordType × Registry) := do
  if Scalar.isPrimitiveName name then throw (.primitiveName name)
  if reg.contains name then throw (.recordTaken name)
  let declarations ← Schema.parse text
  if declarations.isEmpty then throw (.noMembers name)
  let members ← Schema.Declaration.membersOf reg name [] declarations
  let record ← RecordType.make (.text name) members
  let reg ← reg.register name (.descriptor (.record record))
  return (record, reg)

end Registry

end RecordCodec
