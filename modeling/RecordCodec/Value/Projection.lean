import RecordCodec.Value.Basic

namespace RecordCodec

/-- A run of one bit is shown as a truth value, a wider one by its binary digits. -/
def Bitfield.projectCell (b : Bitfield) (p : Placed) : Value :=
  if p.field.width = 1 then .bool (b.cell p != 0)
  else .text ("0b" ++ String.ofList (Bits.digits p.field.width (b.cell p)))

def Bitfield.project (b : Bitfield) : List (String × Value) :=
  (b.layout.placed.filter fun p => !p.field.isReserved).map fun p =>
    (p.field.name, b.projectCell p)

namespace Value

def isReservedName (name : String) : Bool :=
  name.startsWith "#"

mutual

def project : Value → Value
  | bits b => dict b.project
  | dict entries => dict (projectEntries entries)
  | list items => list (projectAll items)
  | v => v

def projectAll : List Value → List Value
  | [] => []
  | v :: rest => project v :: projectAll rest

def projectEntries : List (String × Value) → List (String × Value)
  | [] => []
  | (name, v) :: rest =>
    if isReservedName name then projectEntries rest
    else (name, project v) :: projectEntries rest

end

end Value

end RecordCodec
