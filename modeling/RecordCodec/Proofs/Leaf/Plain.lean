import RecordCodec.Proofs.Bitfield.Acceptance
import RecordCodec.Proofs.Document.Plain
import RecordCodec.Proofs.Leaf.RoundTrip

namespace RecordCodec

-- Powers of natural numbers are those of the core library.
attribute [local instance (high)] instPowNat

namespace Binary64

open BinaryFormat

theorem isFinite_widen_iff (pattern : Nat) :
    (widen pattern).isFinite = true ↔ pattern % single.signBit < single.infinity := by
  have hfinite {d : Nat} (hd : d < double.signBit) (negative : Bool) :
      (ofMagnitude negative d).isFinite = true ↔ d < double.infinity := by
    rw [isFinite, (negative_ofMagnitude negative hd).2, decide_eq_true_eq]
  rw [widen]
  rcases Nat.lt_trichotomy (pattern % single.signBit) single.infinity with hlt | heq | hgt
  · obtain ⟨d, hd, hsame⟩ := exists_sameValue_double hlt
    rw [widenMagnitude_of_sameValue hlt hd hsame, hfinite (Nat.lt_trans hd (by decide))]
    exact iff_of_true hd hlt
  · rw [heq, show widenMagnitude single.infinity = double.infinity by decide,
      hfinite (by decide)]
    exact iff_of_false (Nat.lt_irrefl _) (Nat.lt_irrefl _)
  · obtain ⟨hinfinity, hsign⟩ := widenMagnitude_of_infinity_lt hgt
    rw [hfinite hsign]
    exact iff_of_false (Nat.not_lt.2 (Nat.le_of_lt hinfinity)) (Nat.not_lt.2 (Nat.le_of_lt hgt))

end Binary64

namespace Bitfield

variable {P : Binary64 → Prop}

theorem isPlain_projectCell (b : Bitfield) (p : Placed) : (b.projectCell p).IsPlain P := by
  rw [projectCell]
  split
  · exact .bool _
  · exact .text _

theorem isPlain_project (b : Bitfield) : (Value.dict b.project).IsPlain P := by
  have hnames : b.project.map Prod.fst =
      (b.layout.placed.filter fun p ↦ !p.field.isReserved).map fun p ↦ p.field.name := by
    rw [project, List.map_map]
    rfl
  have hnodup : (b.layout.placed.map fun p ↦ p.field.name).Nodup := by
    have hplaced := Layout.map_field_placeFrom b.layout.fields 0
    have hnodup := b.layout.nodup
    rw [← hplaced, List.map_map] at hnodup
    exact hnodup
  refine .dict (hnames ▸ hnodup.sublist (List.filter_sublist.map _)) ?_ ?_
  · intro e he
    obtain ⟨p, hp, rfl⟩ := List.mem_map.1 he
    exact Bool.not_eq_true' _ ▸ (List.mem_filter.1 hp).2
  · intro e he
    obtain ⟨p, -, rfl⟩ := List.mem_map.1 he
    exact b.isPlain_projectCell p

end Bitfield

namespace Leaf

variable {l : Leaf} {order : ByteOrder} {options v : Value} {block : Bytes}

/-- Whether a block of bytes is no infinite double and none that is no number: the bits of the
exponent are not all set. -/
def IsFinite (l : Leaf) (order : ByteOrder) (block : Bytes) : Prop :=
  match l with
  | single => order.decode block % BinaryFormat.single.signBit < BinaryFormat.single.infinity
  | double => order.decode block % BinaryFormat.double.signBit < BinaryFormat.double.infinity
  | _ => True

instance (l : Leaf) (order : ByteOrder) (block : Bytes) : Decidable (l.IsFinite order block) :=
  match l with
  | single | double => inferInstanceAs (Decidable (_ < _))
  | int _ _ | char | bool | bits _ => .isTrue trivial

theorem isFinite_iff (options : Value) (hb : block.length = l.size) : l.IsFinite order block ↔
    ∀ x, l.decode order options block = .ok (.float x) → x.isFinite = true := by
  have hlt : order.decode block < 256 ^ l.size := hb ▸ order.decode_lt block
  cases l with
  | single =>
    rw [IsFinite, ← Binary64.isFinite_widen_iff]
    simp [decode]
  | double =>
    have hbits : (UInt64.ofNat (order.decode block)).toNat = order.decode block :=
      UInt64.toNat_ofNat_of_lt' hlt
    have hfinite : (Binary64.mk (UInt64.ofNat (order.decode block))).isFinite = true ↔
        double.IsFinite order block := by
      rw [Binary64.isFinite, Binary64.magnitude, hbits, decide_eq_true_eq, IsFinite]
    rw [← hfinite]
    simp [decode]
  | int signed _ =>
    refine iff_of_true trivial fun x hx ↦ ?_
    cases signed <;> cases hx
  | char | bool =>
    refine iff_of_true trivial fun x hx ↦ ?_
    cases hx
  | bits c =>
    refine iff_of_true trivial fun x hx ↦ ?_
    obtain ⟨b, -, hx⟩ := bind_eq_ok.1 hx
    cases hx

theorem isWritable_of_mem_intRange {signed : Bool} {size : WordSize} {n : Int}
    (h : (intRange signed size).1 ≤ n ∧ n < (intRange signed size).2) :
    Numeral.isWritable n = true := by
  have hlimit : 2 ^ (64 : Nat) ≤ Numeral.unwritableFrom :=
    calc 2 ^ (64 : Nat) ≤ 10 ^ (64 : Nat) := Nat.pow_le_pow_left (by decide) 64
      _ ≤ 10 ^ Numeral.maxDecimalDigits := Nat.pow_le_pow_right (by decide) (by decide)
  have hn : n.natAbs < 2 ^ (64 : Nat) := by
    cases signed <;> cases size <;> simp [intRange, WordSize.bytes] at h <;> omega
  rw [Numeral.isWritable, decide_eq_true_eq]
  omega

theorem isPlain_project {P : Binary64 → Prop} (hb : block.length = l.size)
    (h : l.decode order options block = .ok v) (hfloat : ∀ x, v = .float x → P x) :
    v.project.IsPlain P := by
  have hlt : order.decode block < 256 ^ l.size := hb ▸ order.decode_lt block
  cases l with
  | int signed size =>
    cases signed with
    | false =>
      cases h
      exact .int (isWritable_of_mem_intRange (natCast_mem_intRange hlt))
    | true =>
      cases h
      exact .int (isWritable_of_mem_intRange (toSigned_mem_intRange hlt))
  | single | double =>
    cases h
    exact .float (hfloat _ rfl)
  | char =>
    cases h
    exact .text _
  | bool =>
    cases h
    exact .bool _
  | bits c =>
    obtain ⟨b, -, h⟩ := bind_eq_ok.1 h
    cases h
    exact b.isPlain_project

end Leaf

end RecordCodec
