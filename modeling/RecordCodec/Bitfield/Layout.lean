namespace RecordCodec

structure SubField where
  name : String
  width : Nat
  pos : 0 < width
deriving DecidableEq

namespace SubField

def isReserved (f : SubField) : Bool :=
  f.name.startsWith "#"

end SubField

structure Placed where
  field : SubField
  offset : Nat
deriving DecidableEq

/-- An ordered list of runs of bits with distinct names. -/
structure Layout where
  fields : List SubField
  nodup : (fields.map SubField.name).Nodup
deriving DecidableEq

namespace Layout

def empty : Layout := ⟨[], .nil⟩

instance : Inhabited Layout := ⟨empty⟩

def totalWidth : List SubField → Nat
  | [] => 0
  | f :: rest => f.width + totalWidth rest

def width (l : Layout) : Nat :=
  totalWidth l.fields

def placeFrom (offset : Nat) : List SubField → List Placed
  | [] => []
  | f :: rest => ⟨f, offset⟩ :: placeFrom (offset + f.width) rest

def placed (l : Layout) : List Placed :=
  placeFrom 0 l.fields

def find? (l : Layout) (name : String) : Option Placed :=
  l.placed.find? fun p => p.field.name == name

def names (l : Layout) : List String :=
  l.fields.map SubField.name

theorem offset_add_width_le_of_mem_placeFrom {fields : List SubField} {start : Nat} {p : Placed}
    (h : p ∈ placeFrom start fields) : p.offset + p.field.width ≤ start + totalWidth fields := by
  induction fields generalizing start with
  | nil => simp [placeFrom] at h
  | cons f rest ih =>
    simp only [totalWidth] at ih ⊢
    rcases List.mem_cons.1 h with rfl | h
    · simp only []; omega
    · have := ih h; omega

theorem offset_add_width_le_of_find? {l : Layout} {name : String} {p : Placed}
    (h : l.find? name = some p) : p.offset + p.field.width ≤ l.width := by
  have := offset_add_width_le_of_mem_placeFrom (List.mem_of_find?_eq_some h)
  simpa [width] using this

end Layout

end RecordCodec
