import RecordCodec.Proofs.Codec.RoundTrip
import RecordCodec.Proofs.Expansion.Pieces

namespace RecordCodec

open Expansion Registry

structure Span where
  offset : Int
  size : Int
deriving DecidableEq

def Span.Owns (s : Span) (i : Int) : Prop :=
  s.offset ≤ i ∧ i < s.offset + s.size

/-- Whether spans in a row have no empty one among them and cut the bytes from `start` up to `stop`
into pieces. -/
structure Partition (start : Int) (spans : List Span) (stop : Int) : Prop where
  size_pos : ∀ s ∈ spans, 0 < s.size
  increasing : spans.Pairwise fun s s' ↦ s.offset < s'.offset
  disjoint : spans.Pairwise fun s s' ↦ ∀ i, s.Owns i → ¬ s'.Owns i
  covers : ∀ i, (∃ s ∈ spans, s.Owns i) ↔ start ≤ i ∧ i < stop

/-- The spans of the leaves in a value that begins at `start`, with at most `nesting` types inside
each other: every element lies where the placement says. -/
def Registry.spansWithin (reg : Registry) : Nat → Descriptor → Int → Option (List Span)
  | 0, _, _ => none
  | _ + 1, .scalar t, start => t.size.map fun n ↦ [⟨start, n⟩]
  | nesting + 1, .record r, start => do
    let blocks ← (Placement.ofRecord r).pieces.mapM fun q ↦ do
      reg.spansWithin nesting (← reg.find? q.slot.typeName) (start + q.offset)
    return blocks.flatten

def Registry.spans? (reg : Registry) (d : Descriptor) (start : Int) : Option (List Span) :=
  reg.spansWithin reg.nestingBound d start

namespace Expansion

def Place.span (start : Int) (place : Place) : Span :=
  ⟨start + place.offset, place.leaf.size⟩

theorem Place.span_under (place : Place) (step : Step) (start : Int) (offset : Nat) :
    (place.under step offset).span start = place.span (start + offset) := by
  rw [span, span, offset_under, leaf_under, Int.natCast_add, Int.add_assoc]

theorem map_span_under (places : List Place) (step : Step) (start : Int) (offset : Nat) :
    (places.map (.under step offset)).map (Place.span start) =
      places.map (Place.span (start + offset)) := by
  rw [List.map_map]
  exact List.map_congr_left fun place _ ↦ place.span_under step start offset

theorem Packed.partition {first last : Nat} {places : List Place} (h : Packed first places last)
    (start : Int) : Partition (start + first) (places.map (Place.span start)) (start + last) := by
  induction places generalizing first with
  | nil =>
    cases h
    exact ⟨nofun, .nil, .nil, fun i ↦ iff_of_false nofun (by omega)⟩
  | cons place rest ih =>
    obtain ⟨rfl, hrest⟩ := h
    have hsize := leaf_size_pos place.leaf
    have hlast := hrest.start_le
    have hp := ih hrest
    -- whatever owns a byte behind the first place begins behind it
    have hbehind : ∀ s ∈ rest.map (Place.span start),
        start + place.offset + place.leaf.size ≤ s.offset := by
      intro s hs
      obtain ⟨place', hplace', rfl⟩ := List.mem_map.1 hs
      have hbounds := (hrest.bounds hplace').1
      simp only [Place.span]
      omega
    rw [List.map_cons]
    refine ⟨?_, ?_, ?_, fun i ↦ ?_⟩
    · rw [List.forall_mem_cons]
      exact ⟨Int.natCast_pos.2 hsize, hp.size_pos⟩
    · refine .cons (fun s hs ↦ ?_) hp.increasing
      have := hbehind s hs
      simp only [Place.span]
      omega
    · refine .cons (fun s hs i howns howns' ↦ ?_) hp.disjoint
      have hle := hbehind s hs
      have hlt := howns.2
      have hge := howns'.1
      simp only [Place.span] at hlt
      omega
    · rw [List.exists_mem_cons_iff, hp.covers]
      simp only [Span.Owns, Place.span]
      omega

end Expansion

variable {reg : Registry} {name : String} {options : Value} {y : Expansion}

theorem blocks_of_member {m : Member} (hsize : (y.size : Int) = m.elementSize) (offset : Nat)
    (start : Int) {f : Piece → Option (List Span)}
    (hf : ∀ q ∈ (m.slot offset).pieces,
      f q = some (y.places.map (Place.span (start + q.offset)))) :
    ∃ blocks, (m.slot offset).pieces.Forall₂ (fun q block ↦ f q = some block) blocks ∧
      blocks.flatten = ((if m.count = 1 then y else .array m.name m.count y).places.map
        (.under (.member m.name) offset)).map (Place.span start) := by
  have hcount : (m.slot offset).count = m.count := rfl
  have hoffset (i : Nat) : (⟨m.slot offset, i⟩ : Piece).offset = offset + (i * y.size : Nat) := by
    rw [Piece.offset, m.elementSize_slot, ← hsize, ← Int.natCast_mul]
    rfl
  refine ⟨(List.range m.count).map fun i ↦
    y.places.map (Place.span (start + (offset + (i * y.size : Nat)))), ?_, ?_⟩
  · rw [Slot.pieces, hcount] at hf ⊢
    rw [List.forall₂_map_left_iff, List.forall₂_map_right_iff, List.forall₂_same]
    intro i hi
    rw [hf _ (List.mem_map_of_mem hi), hoffset]
  · rw [map_span_under, ← List.flatMap_def]
    by_cases hc : m.count = 1
    · simp [hc]
    · rw [if_neg hc, places, List.map_flatMap]
      refine List.flatMap_congr fun i _ ↦ ?_
      rw [map_span_under, Int.add_assoc]

theorem blocks_of_members {members : List Member} {entries : List (String × Expansion)}
    (h : members.Forall₂ reg.Expands entries) (offset : Nat) (start : Int)
    {f : Piece → Option (List Span)}
    (hf : ∀ m ∈ members, ∀ y, reg.Resolves m.typeName m.options y → ∀ offset, ∀ q ∈
      (m.slot offset).pieces, f q = some (y.places.map (Place.span (start + q.offset)))) :
    ∃ blocks, ((Placement.slotsFrom offset members).flatMap Slot.pieces).Forall₂
        (fun q block ↦ f q = some block) blocks ∧
      blocks.flatten = (placesFrom offset entries).map (Place.span start) := by
  induction h generalizing offset with
  | nil => exact ⟨[], .nil, rfl⟩
  | @cons m entry members entries hm _ ih =>
    have hmsize := hm.size_eq
    obtain ⟨hhead, hrest⟩ := List.forall_mem_cons.1 hf
    obtain ⟨y, hy, hsize, rfl⟩ := hm
    obtain ⟨front, hfront, hplaces⟩ := blocks_of_member hsize offset start (hhead y hy offset)
    obtain ⟨back, hback, hplaces'⟩ := ih (offset + _) hrest
    rw [Int.natCast_add, hmsize] at hback
    refine ⟨front ++ back, ?_, ?_⟩
    · rw [m.slotsFrom_cons, List.flatMap_cons]
      exact List.rel_append hfront hback
    · rw [List.flatten_append, hplaces, hplaces', placesFrom, List.map_append]

namespace Registry

/-- The placements lead to the places of the leaves. -/
theorem WellFormed.spansWithin_eq (h : reg.WellFormed) (hy : reg.Resolves name options y) {n : Nat}
    (hn : reg.rank name < n) (start : Int) : ∃ d, reg.find? name = some d ∧
      reg.spansWithin n d start = some (y.places.map (Place.span start)) := by
  induction n generalizing name options y start with
  | zero => omega
  | succ n ih =>
    obtain ⟨d, hd, hsize, hexpansion⟩ := hy.find?
    refine ⟨d, hd, ?_⟩
    cases d with
    | scalar t =>
      obtain ⟨k, hk⟩ := reg.exists_nestingBound
      rw [expansion?, hk] at hexpansion
      obtain ⟨l, -, -, rfl⟩ := expandWithin_scalar hexpansion
      rw [Descriptor.size?_scalar, Option.map_eq_some_iff] at hsize
      obtain ⟨size, hsize, hl⟩ := hsize
      rw [spansWithin, hsize, places]
      simp [Place.span, hl, Expansion.size]
    | record r =>
      obtain ⟨hr, rfl⟩ := h.mem_records hd
      obtain ⟨entries, rfl, hentries⟩ := h.exists_expands hr hexpansion
      obtain ⟨blocks, hblocks, hplaces⟩ := blocks_of_members hentries 0 start
        (f := fun q ↦ do reg.spansWithin n (← reg.find? q.slot.typeName) (start + q.offset))
        fun m hm y hy offset q hq ↦ by
          have hrank := (h.supported r hr m hm).rank_lt
          obtain ⟨i, -, rfl⟩ := List.mem_map.1 hq
          obtain ⟨d, hd, hspans⟩ := ih hy (by omega) (start + (⟨m.slot offset, i⟩ : Piece).offset)
          exact (congrArg (· >>= _) hd).trans hspans
      rw [places, ← hplaces]
      exact congrArg (· >>= fun blocks ↦ some blocks.flatten) (mapM_eq_some.2 hblocks)

end Registry

namespace Placement

theorem map_slotsFrom (start : Int) (members : List Member) :
    (slotsFrom start members).map (fun slot ↦ (slot.name, slot.offset)) =
      RecordType.offsetsFrom start members := by
  induction members generalizing start with
  | nil => rfl
  | cons m rest ih =>
    rw [m.slotsFrom_cons, List.map_cons, ih, RecordType.offsetsFrom]
    rfl

theorem offset_add_size_slotsFrom {start : Int} {members : List Member} {k : Nat} {slot : Slot}
    (h : (slotsFrom start members)[k]? = some slot) : slot.offset + slot.size =
      (((slotsFrom start members)[k + 1]?).map Slot.offset).getD
        (start + RecordType.totalSize members) := by
  induction members generalizing start k with
  | nil => cases h
  | cons m rest ih =>
    rw [m.slotsFrom_cons] at h ⊢
    rw [RecordType.totalSize, ← Int.add_assoc]
    cases k with
    | succ k => exact ih h
    | zero =>
      cases h
      cases rest with
      | nil => exact (Int.add_zero _).symm
      | cons m' rest => rfl

theorem mem_slotsFrom {start : Int} {members : List Member} {slot : Slot}
    (h : slot ∈ slotsFrom start members) : ∃ m ∈ members, ∃ offset, slot = m.slot offset := by
  induction members generalizing start with
  | nil => cases h
  | cons m rest ih =>
    rw [m.slotsFrom_cons] at h
    rcases List.mem_cons.1 h with rfl | h
    · exact ⟨m, List.mem_cons_self, start, rfl⟩
    · obtain ⟨m', hm', offset, rfl⟩ := ih h
      exact ⟨m', List.mem_cons_of_mem _ hm', offset, rfl⟩

/-- What a record type is compiled to leaves no byte out and takes none twice. The spans are those
of the leaves that reading and writing go through, and the sizes that a placement divides and adds
up are those of the types. -/
theorem partitions_record (schemas : List (String × String)) {record : String} {r : RecordType}
    (hr : (standard.attemptAll schemas).find? record = some (.record r)) :
    (∃ spans x, (standard.attemptAll schemas).spans? (.record r) 0 = some spans ∧
      Partition 0 spans r.size ∧
      (standard.attemptAll schemas).expansion? (.record r) .none = some x ∧
      spans = x.places.map (Place.span 0)) ∧
    (ofRecord r).slots.map (fun slot ↦ (slot.name, slot.offset)) = r.offsets ∧
    ∀ (k : Nat) (slot : Slot), (ofRecord r).slots[k]? = some slot →
      (∃ d, (standard.attemptAll schemas).find? slot.typeName = some d ∧
        d.size? = some slot.elementSize) ∧
      slot.size = slot.count * slot.elementSize ∧
      slot.offset + slot.size = (((ofRecord r).slots[k + 1]?).map Slot.offset).getD r.size := by
  have h := wellFormed_attemptAll schemas
  obtain ⟨hmem, hname⟩ := h.mem_records hr
  refine ⟨?_, map_slotsFrom 0 r.members, fun k slot hslot ↦ ?_⟩
  · obtain ⟨x, hx, hsound, hsize⟩ := Codec.exists_expansion schemas hr
    have hresolves : (standard.attemptAll schemas).Resolves record .none x :=
      ⟨⟨.record r, hr, congrArg some hsize.symm, hx⟩, hsound⟩
    have hrank := rank_lt_size (mem_names_of_find? hr)
    obtain ⟨d, hd, hspans⟩ := h.spansWithin_eq hresolves
      (n := (standard.attemptAll schemas).nestingBound) (by rw [nestingBound]; omega) 0
    cases hr.symm.trans hd
    have hpartition := x.packed_places.partition 0
    rw [hsize, Int.zero_add, Int.zero_add] at hpartition
    exact ⟨_, x, hspans, hpartition, hx, rfl⟩
  · have hnext := offset_add_size_slotsFrom hslot
    rw [Int.zero_add] at hnext
    obtain ⟨m, hm, offset, rfl⟩ := mem_slotsFrom (List.mem_of_getElem? hslot)
    refine ⟨?_, (m.count_mul_elementSize_slot offset).symm, hnext⟩
    rw [m.elementSize_slot]
    exact (h.supported r hmem m hm).sized

theorem partitions_record_row : ∃ r spans,
    (standard.attemptAll Codec.rowSchemas).find? "Row" = some (.record r) ∧
    (standard.attemptAll Codec.rowSchemas).spans? (.record r) 0 = some spans ∧
    Partition 0 spans 18 ∧
    spans = [⟨0, 4⟩, ⟨4, 2⟩, ⟨6, 4⟩, ⟨10, 1⟩, ⟨11, 2⟩, ⟨13, 4⟩, ⟨17, 1⟩] := by
  obtain ⟨r, hr, hsize, hrow⟩ := Codec.find?_row
  obtain ⟨⟨spans, x, hspans, hpartition, hx, rfl⟩, -⟩ := partitions_record Codec.rowSchemas hr
  cases hrow.symm.trans hx
  rw [hsize] at hpartition
  exact ⟨r, _, hr, hspans, hpartition, rfl⟩

end Placement

end RecordCodec
