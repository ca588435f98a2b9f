import RecordCodec.Descriptor
import RecordCodec.Number.Limit

namespace RecordCodec

structure Slot where
  name : String
  typeName : String
  offset : Int
  size : Int
  count : Nat
  runs : Option (List (String × Int))
deriving DecidableEq

structure Placement where
  name : String
  size : Int
  slots : List Slot
deriving DecidableEq

def Slot.elementSize (s : Slot) : Int :=
  s.size.fdiv s.count

namespace Placement

def slotsFrom (start : Int) : List Member → List Slot
  | [] => []
  | m :: rest =>
    ⟨m.name, m.typeName, start, m.size, m.count, m.options?⟩ :: slotsFrom (start + m.size) rest

def ofRecord (r : RecordType) : Placement :=
  ⟨r.name, r.size, slotsFrom 0 r.members⟩

def isWritable (p : Placement) : Bool :=
  Numeral.isWritable p.size && p.slots.all fun s =>
    Numeral.isWritable s.offset && Numeral.isWritable s.size

end Placement

end RecordCodec
