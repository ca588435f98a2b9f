import RecordCodec.Scalar
import RecordCodec.Value.Entries

namespace RecordCodec

/-- A type that is read by a scalar codec. The size is `none` for what has no fixed one. -/
structure ScalarType where
  name : String
  size : Option Nat
  reader : Scalar
  writer : Option Leaf
  name_ne : name ≠ ""
  size_pos : ∀ n ∈ size, 0 < n
deriving DecidableEq

/-- One member of a record type: `count` elements of a type, each of `elementSize` bytes. -/
structure Member where
  typeName : String
  name : String
  elementSize : Int
  count : Nat
  runs : Option (List (String × Int))
  count_pos : 0 < count

structure RecordType where
  name : String
  members : List Member
  name_ne : name ≠ ""
  nodup : (members.map Member.name).Nodup

inductive Descriptor where
  | scalar (t : ScalarType)
  | record (r : RecordType)

namespace ScalarType

def ofScalar (s : Scalar) : ScalarType :=
  ⟨s.name, s.size?, s, s.writer?, s.name_ne, s.size_pos⟩

def sizeOf (name : String) (size : Value) :
    Except Error { size : Option Nat // ∀ n ∈ size, 0 < n } :=
  match size with
  | .none => .ok ⟨none, by simp⟩
  | .int n => if h : 0 < n then .ok ⟨some n.toNat, by simp; omega⟩ else .error (.typeSize name size)
  | _ => .error (.typeSize name size)

inductive WriterSource where
  | none
  | invalid
  | leaf (l : Leaf)
deriving DecidableEq

def make (name size : Value) (reader : Option Scalar) (writer : WriterSource) :
    Except Error ScalarType :=
  match name with
  | .text s =>
    if h : s ≠ "" then do
      let size ← sizeOf s size
      match reader, writer with
      | .none, _ => .error (.noDecoder s)
      | some _, .invalid => .error (.badEncoder s)
      | some reader, .none => .ok ⟨s, size.1, reader, .none, h, size.2⟩
      | some reader, .leaf l => .ok ⟨s, size.1, reader, some l, h, size.2⟩
    else .error (.typeName name)
  | _ => .error (.typeName name)

end ScalarType

namespace Member

theorem toNat_pos {n : Int} (h : 0 < n) : 0 < n.toNat := by
  omega

def make (typeName name : String) (elementSize count : Int) (runs : Option (List (String × Int))) :
    Except Error Member :=
  if h : 0 < count then .ok ⟨typeName, name, elementSize, count.toNat, runs, toNat_pos h⟩
  else .error (.memberCount name count)

def size (m : Member) : Int :=
  m.elementSize * m.count

def isArray (m : Member) : Bool :=
  1 < m.count

def options? (m : Member) : Option (List (String × Int)) :=
  m.runs.map Value.entriesOf

def options (m : Member) : Value :=
  match m.options? with
  | none => .none
  | some entries => .dict (entries.map fun entry => (entry.1, .int entry.2))

end Member

namespace RecordType

def firstRepeated? (seen : List String) : List String → Option String
  | [] => none
  | name :: rest => if name ∈ seen then some name else firstRepeated? (name :: seen) rest

theorem nodup_of_firstRepeated? {seen names : List String} (h : firstRepeated? seen names = none) :
    names.Nodup ∧ ∀ n ∈ names, n ∉ seen := by
  induction names generalizing seen with
  | nil => simp
  | cons name rest ih =>
    simp only [firstRepeated?] at h
    split at h
    · contradiction
    · rename_i hn
      obtain ⟨hd, hs⟩ := ih h
      refine ⟨List.nodup_cons.2 ⟨fun hm => hs name hm List.mem_cons_self, hd⟩, ?_⟩
      intro n hm
      rcases List.mem_cons.1 hm with rfl | hm
      · exact hn
      · exact fun hseen => hs n hm (List.mem_cons_of_mem _ hseen)

def make (name : Value) (members : List Member) : Except Error RecordType :=
  match name with
  | .text s =>
    if hs : s ≠ "" then
      match h : firstRepeated? [] (members.map Member.name) with
      | none => .ok ⟨s, members, hs, (nodup_of_firstRepeated? h).1⟩
      | some member => .error (.duplicateMember member s)
    else .error (.recordName name)
  | _ => .error (.recordName name)

def totalSize : List Member → Int
  | [] => 0
  | m :: rest => m.size + totalSize rest

def size (r : RecordType) : Int :=
  totalSize r.members

def member (r : RecordType) (name : String) : Except Error Member :=
  match r.members.find? fun m => m.name == name with
  | some m => .ok m
  | none => .error (.noMember name)

def offsetsFrom (start : Int) : List Member → List (String × Int)
  | [] => []
  | m :: rest => (m.name, start) :: offsetsFrom (start + m.size) rest

def offsets (r : RecordType) : List (String × Int) :=
  offsetsFrom 0 r.members

end RecordType

namespace Descriptor

def name : Descriptor → String
  | scalar t => t.name
  | record r => r.name

def size? : Descriptor → Option Int
  | scalar t => t.size.map fun n => n
  | record r => some r.size

end Descriptor

end RecordCodec
