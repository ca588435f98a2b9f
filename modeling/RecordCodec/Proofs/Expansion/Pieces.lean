import RecordCodec.Proofs.Expansion.Places
import RecordCodec.Proofs.Registry.Nesting
import RecordCodec.Schema.Placement

namespace RecordCodec

def Slot.options (s : Slot) : Value :=
  match s.runs with
  | none => .none
  | some entries => .dict (entries.map fun entry ↦ (entry.1, .int entry.2))

/-- One element of a slot. -/
structure Piece where
  slot : Slot
  index : Nat

namespace Piece

def offset (q : Piece) : Int :=
  q.slot.offset + q.index * q.slot.elementSize

def path (q : Piece) : List Expansion.Step :=
  if q.slot.count = 1 then [.member q.slot.name]
  else [.member q.slot.name, .element q.slot.count q.index]

def Owns (q : Piece) (i : Int) : Prop :=
  q.offset ≤ i ∧ i < q.offset + q.slot.elementSize

end Piece

def Slot.pieces (s : Slot) : List Piece :=
  (List.range s.count).map fun i ↦ ⟨s, i⟩

def Placement.pieces (p : Placement) : List Piece :=
  p.slots.flatMap Slot.pieces

/-- Whether pieces lie one behind the other from one offset up to another. -/
def Contiguous : Int → List Piece → Int → Prop
  | start, [], stop => start = stop
  | start, q :: rest, stop => q.offset = start ∧ Contiguous (start + q.slot.elementSize) rest stop

namespace Contiguous

variable {start middle stop i : Int} {front rest pieces : List Piece} {q : Piece}

theorem append (h : Contiguous start front middle) (h' : Contiguous middle rest stop) :
    Contiguous start (front ++ rest) stop := by
  induction front generalizing start with
  | nil =>
    cases h
    exact h'
  | cons q front ih =>
    obtain ⟨hoffset, h⟩ := h
    exact ⟨hoffset, ih h⟩

theorem exists_owns (h : Contiguous start pieces stop) (hi : start ≤ i) (hi' : i < stop) :
    ∃ q ∈ pieces, q.Owns i := by
  induction pieces generalizing start with
  | nil =>
    cases h
    omega
  | cons q rest ih =>
    obtain ⟨hoffset, h⟩ := h
    by_cases hq : i < start + q.slot.elementSize
    · refine ⟨q, List.mem_cons_self, ?_⟩
      rw [Piece.Owns, hoffset]
      exact ⟨hi, hq⟩
    · obtain ⟨q', hq', howns⟩ := ih h (by omega)
      exact ⟨q', List.mem_cons_of_mem _ hq', howns⟩

theorem start_le_offset (h : Contiguous start pieces stop)
    (hsize : ∀ q ∈ pieces, 0 ≤ q.slot.elementSize) (hq : q ∈ pieces) : start ≤ q.offset := by
  induction pieces generalizing start with
  | nil => cases hq
  | cons q' rest ih =>
    obtain ⟨hoffset, h⟩ := h
    rcases List.mem_cons.1 hq with rfl | hq
    · omega
    · have hle := ih h (fun q hq ↦ hsize q (List.mem_cons_of_mem _ hq)) hq
      have hhead := hsize q' List.mem_cons_self
      omega

theorem pairwise (h : Contiguous start pieces stop)
    (hsize : ∀ q ∈ pieces, 0 ≤ q.slot.elementSize) :
    pieces.Pairwise fun q q' ↦ ∀ i, q.Owns i → ¬ q'.Owns i := by
  induction pieces generalizing start with
  | nil => exact .nil
  | cons q rest ih =>
    obtain ⟨hoffset, h⟩ := h
    have hrest : ∀ q' ∈ rest, 0 ≤ q'.slot.elementSize :=
      fun q' hq' ↦ hsize q' (List.mem_cons_of_mem _ hq')
    refine .cons ?_ (ih h hrest)
    intro q' hq' i howns howns'
    have hle := h.start_le_offset hrest hq'
    have hlt := howns.2
    have hge := howns'.1
    omega

end Contiguous

theorem contiguous_range' (s : Slot) (n i : Nat) :
    Contiguous (s.offset + i * s.elementSize) ((List.range' i n).map fun i ↦ ⟨s, i⟩)
      (s.offset + (i + n : Nat) * s.elementSize) := by
  induction n generalizing i with
  | zero => exact rfl
  | succ n ih =>
    have hrest := ih (i + 1)
    have hnext : s.offset + ((i + 1 : Nat) : Int) * s.elementSize =
        s.offset + i * s.elementSize + s.elementSize := by
      rw [Int.natCast_add, Int.natCast_one, Int.add_mul, Int.one_mul, Int.add_assoc]
    rw [hnext, Nat.add_right_comm] at hrest
    rw [List.range'_succ, List.map_cons]
    exact ⟨rfl, hrest⟩

theorem contiguous_pieces (s : Slot) :
    Contiguous s.offset s.pieces (s.offset + s.count * s.elementSize) := by
  have h := contiguous_range' s s.count 0
  rw [← List.range_eq_range', Int.natCast_zero, Int.zero_mul, Int.add_zero, Nat.zero_add] at h
  exact h

namespace Member

def slot (m : Member) (offset : Int) : Slot :=
  ⟨m.name, m.typeName, offset, m.size, m.count, m.options?⟩

variable (m : Member) (offset : Int)

theorem slotsFrom_cons (rest : List Member) : Placement.slotsFrom offset (m :: rest) =
    m.slot offset :: Placement.slotsFrom (offset + m.size) rest :=
  rfl

theorem elementSize_slot : (m.slot offset).elementSize = m.elementSize := by
  have hcount : (m.count : Int) ≠ 0 := Int.natCast_ne_zero.2 (Nat.ne_of_gt m.count_pos)
  exact Int.mul_fdiv_cancel m.elementSize hcount

theorem count_mul_elementSize_slot :
    (m.slot offset).count * (m.slot offset).elementSize = m.size := by
  rw [elementSize_slot]
  exact Int.mul_comm _ _

end Member

theorem contiguous_slotsFrom (members : List Member) (offset : Int) :
    Contiguous offset ((Placement.slotsFrom offset members).flatMap Slot.pieces)
      (offset + RecordType.totalSize members) := by
  induction members generalizing offset with
  | nil => exact (Int.add_zero offset).symm
  | cons m rest ih =>
    have hhead := contiguous_pieces (m.slot offset)
    rw [m.count_mul_elementSize_slot] at hhead
    rw [m.slotsFrom_cons, List.flatMap_cons, RecordType.totalSize, ← Int.add_assoc]
    exact hhead.append (ih (offset + m.size))

namespace Source

variable {data : Bytes} {s t : Source}

theorem part?_append (data : Bytes) (s : Source) (path path' : List Expansion.Step) :
    s.part? data (path ++ path') = (s.part? data path).bind fun t ↦ t.part? data path' := by
  induction path generalizing s with
  | nil => rfl
  | cons step path ih =>
    rw [List.cons_append, part?, part?, Option.bind_assoc]
    exact Option.bind_congr fun t _ ↦ ih t

theorem isTaken_of_part? {path : List Expansion.Step} (hpath : path ≠ [])
    (h : s.part? data path = some t) : t.IsTaken := by
  induction path generalizing s with
  | nil => contradiction
  | cons step path ih =>
    obtain ⟨u, hu, ht⟩ := Option.bind_eq_some_iff.1 h
    cases path with
    | nil =>
      cases ht
      exact Expansion.isTaken_of_step? hu
    | cons step' path => exact ih (List.cons_ne_nil _ _) ht

end Source

namespace Expansion.Place

def along (path : List Step) (offset : Nat) (place : Place) : Place :=
  { place with offset := offset + place.offset, path := path ++ place.path }

variable (place : Place) (path : List Step) (offset : Nat)

theorem window_along (buffer : Bytes) (start : Nat) :
    (place.along path offset).window buffer start = place.window buffer (start + offset) := by
  rw [window, window, along, Nat.add_assoc]

theorem encoding?_along (order : ByteOrder) (data : Bytes) (s : Source) :
    (place.along path offset).encoding? order data s =
      (s.part? data path).bind (place.encoding? order data) := by
  rw [encoding?, along, Source.part?_append, Option.bind_assoc]
  rfl

theorem under_under (step step' : Step) (offset' : Nat) :
    (place.under step' offset').under step offset =
      place.along [step, step'] (offset + offset') := by
  rw [along, under, under, Nat.add_assoc]
  rfl

end Expansion.Place

namespace Registry

variable {reg : Registry} {r : RecordType} {m : Member} {entry : String × Expansion}
  {x : Expansion} {options : Value}

/-- Whether a name with options leads to an expansion. -/
structure Resolves (reg : Registry) (name : String) (options : Value) (y : Expansion) :
    Prop where
  find? : ∃ d, reg.find? name = some d ∧ d.size? = some (y.size : Int) ∧
    reg.expansion? d options = some y
  sound : y.Sound

def Expands (reg : Registry) (m : Member) (entry : String × Expansion) : Prop :=
  ∃ y, reg.Resolves m.typeName m.options y ∧ (y.size : Int) = m.elementSize ∧
    entry = (m.name, if m.count = 1 then y else .array m.name m.count y)

theorem WellFormed.expands (h : reg.WellFormed) (hr : r ∈ reg.records) (hm : m ∈ r.members)
    (hentry : reg.expandMember reg.expansion? m = some entry) : reg.Expands m entry := by
  have hs := h.supported r hr m hm
  obtain ⟨d, hd, hsize⟩ := hs.sized
  obtain ⟨y, hy, hsound, hysize⟩ := h.exists_expansion hd hsize (hs.admits h hd)
  obtain ⟨d', y', hd', hy', rfl⟩ := expandMember_eq_some hentry
  cases hd.symm.trans hd'
  cases hy.symm.trans hy'
  exact ⟨y, ⟨⟨d, hd, by rw [hsize, hysize], hy⟩, hsound⟩, hysize, rfl⟩

theorem WellFormed.exists_expands (h : reg.WellFormed) (hr : r ∈ reg.records)
    (hx : reg.expansion? (.record r) options = some x) :
    ∃ entries, x = .record r.name entries ∧ r.members.Forall₂ reg.Expands entries := by
  obtain ⟨n, hn⟩ := reg.exists_nestingBound
  rw [expansion?, hn] at hx
  obtain ⟨entries, rfl, hentries⟩ := expandWithin_record hx
  refine ⟨entries, rfl, ?_⟩
  have hmem := (List.forall₂_and_left (p := (· ∈ r.members)) _ _).2 ⟨fun _ hm ↦ hm, hentries⟩
  refine hmem.imp fun m entry hentry ↦ h.expands hr hentry.1 ?_
  refine expandMember_imp (fun d options x hx ↦ ?_) hentry.2
  exact expandWithin_of_le hx (by omega)

theorem size_member (m : Member) (y : Expansion) :
    (if m.count = 1 then y else .array m.name m.count y).size = m.count * y.size := by
  by_cases hc : m.count = 1
  · rw [if_pos hc, hc, Nat.one_mul]
  · rw [if_neg hc, Expansion.size]

theorem Expands.name_eq (h : reg.Expands m entry) : entry.1 = m.name := by
  obtain ⟨y, -, -, rfl⟩ := h
  rfl

theorem Expands.size_eq (h : reg.Expands m entry) : (entry.2.size : Int) = m.size := by
  obtain ⟨y, -, hsize, rfl⟩ := h
  rw [size_member, Int.natCast_mul, hsize, Int.mul_comm]
  rfl

end Registry

open Expansion Registry

/-- Whether a piece is a value of the given expansion, whose leaves are among the given places. The
slot begins at `start` and ends before `stop`. -/
structure Piece.Covers (reg : Registry) (places : List Expansion.Place) (stop : Nat) (q : Piece)
    (start : Nat) (y : Expansion) : Prop where
  resolves : reg.Resolves q.slot.typeName q.slot.options y
  offset_eq : q.slot.offset = start
  size_eq : q.slot.elementSize = y.size
  index_lt : q.index < q.slot.count
  end_le : start + q.slot.count * y.size ≤ stop
  along_mem : ∀ place ∈ y.places, place.along q.path (start + q.index * y.size) ∈ places

theorem covers_of_member {reg : Registry} {m : Member} {y : Expansion}
    (hy : reg.Resolves m.typeName m.options y) (hsize : (y.size : Int) = m.elementSize)
    (offset : Nat) {i : Nat} (hi : i < m.count) : Piece.Covers reg
      ((if m.count = 1 then y else .array m.name m.count y).places.map
        (.under (.member m.name) offset))
      (offset + m.count * y.size) ⟨m.slot offset, i⟩ offset y where
  resolves := hy
  offset_eq := rfl
  size_eq := by rw [m.elementSize_slot, hsize]
  index_lt := hi
  end_le := Nat.le_refl _
  along_mem := by
    intro place hp
    have hcount : (m.slot offset).count = m.count := rfl
    rw [Piece.path, hcount]
    by_cases hc : m.count = 1
    · have hzero : i = 0 := by omega
      rw [if_pos hc, if_pos hc, hzero, Nat.zero_mul, Nat.add_zero]
      exact List.mem_map_of_mem hp
    · rw [if_neg hc, if_neg hc, ← Expansion.Place.under_under]
      exact List.mem_map_of_mem (mem_places_element hi hp)

/-- Every piece of a record is a value of the type that its slot names. -/
theorem exists_covers {reg : Registry} {members : List Member}
    {entries : List (String × Expansion)} (h : members.Forall₂ reg.Expands entries) (offset : Nat) :
    ∀ q ∈ (Placement.slotsFrom offset members).flatMap Slot.pieces, ∃ start y,
      q.Covers reg (placesFrom offset entries) (offset + sizeAll entries) start y := by
  induction h generalizing offset with
  | nil => exact nofun
  | @cons m entry members entries hm _ ih =>
    intro q hq
    have hsize := hm.size_eq
    rw [m.slotsFrom_cons, List.flatMap_cons] at hq
    rw [placesFrom, sizeAll]
    rcases List.mem_append.1 hq with hq | hq
    · obtain ⟨i, hi, rfl⟩ := List.mem_map.1 hq
      obtain ⟨y, hy, hysize, rfl⟩ := hm
      have hcovers := covers_of_member hy hysize offset (List.mem_range.1 hi)
      refine ⟨offset, y, { hcovers with
        end_le := ?_
        along_mem := fun place hp ↦ List.mem_append_left _ (hcovers.along_mem place hp) }⟩
      have hle : offset + m.count * y.size ≤ offset + (m.count * y.size + sizeAll entries) := by
        omega
      rwa [size_member]
    · rw [← hsize, ← Int.natCast_add] at hq
      obtain ⟨start, y, hcovers⟩ := ih _ q hq
      refine ⟨start, y, { hcovers with
        end_le := by
          have := hcovers.end_le
          omega
        along_mem := fun place hp ↦ List.mem_append_right _ (hcovers.along_mem place hp) }⟩

end RecordCodec
