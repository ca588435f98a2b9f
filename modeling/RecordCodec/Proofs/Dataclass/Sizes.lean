import RecordCodec.Proofs.Dataclass.Dependencies
import RecordCodec.Proofs.Expansion.Pieces

namespace RecordCodec.Dataclass

open Registry

section Placements

variable {members : List Member} {start : Int}

theorem totalSize_nonneg (hpos : ∀ m ∈ members, 0 < m.size) : 0 ≤ RecordType.totalSize members := by
  induction members with
  | nil => exact Int.le_refl 0
  | cons m rest ih =>
    obtain ⟨hm, hrest⟩ := List.forall_mem_cons.1 hpos
    have := ih hrest
    rw [RecordType.totalSize]
    omega

theorem size_le_totalSize (hpos : ∀ m ∈ members, 0 < m.size) {m : Member} (hm : m ∈ members) :
    m.size ≤ RecordType.totalSize members := by
  obtain ⟨front, back, rfl⟩ := List.append_of_mem hm
  induction front with
  | nil =>
    have := totalSize_nonneg (List.forall_mem_cons.1 hpos).2
    rw [List.nil_append, RecordType.totalSize]
    omega
  | cons n front ih =>
    obtain ⟨hn, hrest⟩ := List.forall_mem_cons.1 hpos
    have := ih hrest (by simp)
    rw [List.cons_append, RecordType.totalSize]
    omega

theorem bounds_of_mem_slotsFrom (hpos : ∀ m ∈ members, 0 < m.size) {s : Slot}
    (hs : s ∈ Placement.slotsFrom start members) : start ≤ s.offset ∧ 0 < s.size ∧
      s.offset + s.size ≤ start + RecordType.totalSize members := by
  induction members generalizing start with
  | nil => cases hs
  | cons m rest ih =>
    obtain ⟨hm, hrest⟩ := List.forall_mem_cons.1 hpos
    rw [m.slotsFrom_cons] at hs
    rw [RecordType.totalSize]
    rcases List.mem_cons.1 hs with rfl | hs
    · have := totalSize_nonneg hrest
      have hslot : (m.slot start).offset = start ∧ (m.slot start).size = m.size := ⟨rfl, rfl⟩
      omega
    · have := ih hrest hs
      omega

theorem isWritable_iff {n : Int} (hn : 0 < n) :
    Numeral.isWritable n = true ↔ n < Numeral.unwritableFrom := by
  rw [Numeral.isWritable, decide_eq_true_eq]
  omega

theorem isWritable_of_le {m n : Int} (h : Numeral.isWritable n = true) (hm : 0 ≤ m) (hle : m ≤ n) :
    Numeral.isWritable m = true := by
  rw [Numeral.isWritable, decide_eq_true_eq] at h ⊢
  omega

theorem isWritable_ofRecord {t : RecordType} (hpos : ∀ m ∈ t.members, 0 < m.size) :
    (Placement.ofRecord t).isWritable = Numeral.isWritable t.size := by
  rw [Bool.eq_iff_iff, Placement.isWritable, Bool.and_eq_true, List.all_eq_true]
  refine ⟨And.left, fun h ↦ ⟨h, fun s hs ↦ ?_⟩⟩
  obtain ⟨hoffset, hsize, hend⟩ := bounds_of_mem_slotsFrom hpos hs
  rw [← RecordType.size] at hend
  rw [Bool.and_eq_true]
  exact ⟨isWritable_of_le h hoffset (by omega), isWritable_of_le h (Int.le_of_lt hsize) (by omega)⟩

end Placements

section Nested

variable {reg : Registry} {r inner : RecordType} {records : List RecordType}

theorem member_size_pos (h : reg.WellFormed) (hr : r ∈ reg.records) :
    ∀ m ∈ r.members, 0 < m.size :=
  fun m hm ↦ Int.mul_pos (h.supported r hr m hm).size_pos (Int.natCast_pos.2 m.count_pos)

theorem size_le_of_refersTo (h : reg.WellFormed) (hr : r ∈ reg.records)
    (href : reg.RefersTo r inner) : inner.size ≤ r.size := by
  obtain ⟨m, hm, hfind⟩ := href
  have hsupports := h.supported r hr m hm
  obtain ⟨d, hd, hsize⟩ := hsupports.sized
  cases hd.symm.trans hfind
  have helement : inner.size = m.elementSize := Option.some.inj hsize
  have hcount : (1 : Int) ≤ m.count := Int.natCast_pos.2 m.count_pos
  have hmember := Int.mul_le_mul_of_nonneg_left hcount (Int.le_of_lt hsupports.size_pos)
  rw [Int.mul_one, ← Member.size] at hmember
  have hmembers : m.size ≤ r.size := size_le_totalSize (member_size_pos h hr) hm
  omega

theorem size_le_of_reaches (h : reg.WellFormed) (hr : r ∈ reg.records)
    (hreach : reg.Reaches r inner) : inner.size ≤ r.size := by
  induction hreach with
  | refl => exact Int.le_refl _
  | tail hreach href ih =>
    exact Int.le_trans (size_le_of_refersTo h (h.rank_le_of_reaches hr hreach).1 href) ih

theorem all_isWritable (h : reg.WellFormed) (hr : r ∈ reg.records)
    (hreaches : ∀ t, t ∈ records ↔ reg.Reaches r t) :
    (placements records).all Placement.isWritable = Numeral.isWritable r.size := by
  have hone (t : RecordType) (ht : t ∈ records) :
      (Placement.ofRecord t).isWritable = Numeral.isWritable t.size :=
    isWritable_ofRecord (member_size_pos h (h.rank_le_of_reaches hr ((hreaches t).1 ht)).1)
  rw [Bool.eq_iff_iff, placements, List.all_map, List.all_eq_true]
  constructor
  · intro hall
    have hroot := (hreaches r).2 .refl
    have hwritable := hall r hroot
    rwa [Function.comp_apply, hone r hroot] at hwritable
  · intro hwritable t ht
    have hreach := (hreaches t).1 ht
    have hpos := h.record_size_pos (h.rank_le_of_reaches hr hreach).1
    rw [Function.comp_apply, hone t ht]
    exact isWritable_of_le hwritable (Int.le_of_lt hpos) (size_le_of_reaches h hr hreach)

end Nested

end RecordCodec.Dataclass
