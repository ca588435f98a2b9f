import RecordCodec.Bitfield.Build
import RecordCodec.Proofs.Leaf.Acceptance
import RecordCodec.Proofs.Number.Numeral
import RecordCodec.Value.Projection

namespace RecordCodec

-- Powers of natural numbers are those of the core library.
attribute [local instance (high)] instPowNat

namespace Bits

theorem testBit_extract (n shift width i : Nat) :
    (extract n shift width).testBit i = (decide (i < width) && n.testBit (i + shift)) := by
  rw [extract, Nat.testBit_mod_two_pow, Nat.testBit_div_two_pow]

theorem testBit_replace (n shift width cell i : Nat) :
    (replace n shift width cell).testBit i =
      if shift ≤ i ∧ i < shift + width then cell.testBit (i - shift) else n.testBit i := by
  have hlow : n % 2 ^ shift < 2 ^ shift := Nat.mod_lt _ (Nat.two_pow_pos _)
  have hcell : cell % 2 ^ width < 2 ^ width := Nat.mod_lt _ (Nat.two_pow_pos _)
  have hsplit : replace n shift width cell =
      2 ^ shift * (2 ^ width * (n / 2 ^ (shift + width)) + cell % 2 ^ width) + n % 2 ^ shift := by
    rw [replace, Nat.mul_add, ← Nat.mul_assoc, ← Nat.pow_add, Nat.mul_comm (n / _),
      Nat.mul_comm (cell % _)]
  rw [hsplit, Nat.testBit_two_pow_mul_add _ hlow, Nat.testBit_two_pow_mul_add _ hcell,
    Nat.testBit_mod_two_pow, Nat.testBit_mod_two_pow, Nat.testBit_div_two_pow]
  by_cases hi : i < shift
  · simp [hi, Nat.not_le.2 hi]
  · by_cases hi' : i - shift < width
    · simp [hi, hi', Nat.not_lt.1 hi, show i < shift + width by omega]
    · have hadd : i - shift - width + (shift + width) = i := by omega
      simp [hi, hi', hadd, show ¬ i < shift + width by omega]

end Bits

/-- Whether a run has the bit `i` of a container, counted from the lowest one. -/
def Placed.Covers (p : Placed) (width i : Nat) : Prop :=
  width ≤ p.offset + p.field.width + i ∧ p.offset + i < width

instance (p : Placed) (width i : Nat) : Decidable (p.Covers width i) :=
  inferInstanceAs (Decidable (_ ∧ _))

namespace Layout

/-- Whether external representations show the bit `i` of a container: it is one of a run that is not
reserved. -/
def Exposes (l : Layout) (width i : Nat) : Prop :=
  ∃ p ∈ l.placed, p.field.isReserved = false ∧ p.Covers width i

variable {l : Layout} {p : Placed}

theorem find?_placeFrom {fields : List SubField} (h : (fields.map SubField.name).Nodup)
    {offset : Nat} (hp : p ∈ placeFrom offset fields) :
    (placeFrom offset fields).find? (fun q ↦ q.field.name == p.field.name) = some p := by
  induction fields generalizing offset with
  | nil => cases hp
  | cons f rest ih =>
    obtain ⟨hname, hrest⟩ := List.nodup_cons.1 h
    rw [placeFrom] at hp ⊢
    rcases List.mem_cons.1 hp with rfl | hp
    · simp
    · have hne : f.name ≠ p.field.name := by
        intro heq
        apply hname
        rw [heq, ← names_placeFrom rest (offset + f.width)]
        exact List.mem_map_of_mem hp
      rw [List.find?_cons_of_neg (by simp [hne])]
      exact ih hrest hp

theorem find?_of_mem (h : p ∈ l.placed) : l.find? p.field.name = some p :=
  find?_placeFrom l.nodup h

end Layout

namespace Bitfield

variable {b start : Bitfield} {p : Placed}

theorem cell_lt (b : Bitfield) (p : Placed) : b.cell p < 2 ^ p.field.width :=
  Nat.mod_lt _ (Nat.two_pow_pos _)

theorem runValue_projectCell (b : Bitfield) (p : Placed) :
    runValue p.field.name (b.projectCell p) = .ok (b.cell p) := by
  have hcell := b.cell_lt p
  rw [projectCell]
  split
  · rename_i hwidth
    rw [hwidth] at hcell
    have hbit : b.cell p = 0 ∨ b.cell p = 1 := by omega
    rcases hbit with h | h <;> rw [h] <;> rfl
  · have htext : ("0b" ++ String.ofList (Bits.digits p.field.width (b.cell p))).toList =
        '0' :: 'b' :: Bits.digits p.field.width (b.cell p) := by
      simp
    have hbase (c : Prop) [Decidable c] :
        (if c then Numeral.Base.two else .byPrefix) ≠ .ten := by
      split <;> exact nofun
    simp only [runValue, htext, Bits.parse?_digits (hbase _) p.field.pos hcell]

theorem covers_iff (b : Bitfield) (h : p.offset + p.field.width ≤ b.layout.width) (i : Nat) :
    b.shift p ≤ i ∧ i < b.shift p + p.field.width ↔ p.Covers b.width i := by
  have hroom := b.fits
  rw [shift, Placed.Covers, width]
  omega

theorem testBit_cell {i : Nat} (h : p.offset + p.field.width ≤ b.layout.width)
    (hi : p.Covers b.width i) : (b.cell p).testBit (i - b.shift p) = b.raw.testBit i := by
  obtain ⟨hle, hlt⟩ := (b.covers_iff h i).2 hi
  rw [cell, Bits.testBit_extract, decide_eq_true (by omega), Bool.true_and,
    Nat.sub_add_cancel hle]

theorem testBit_setCell (b : Bitfield) (h : p.offset + p.field.width ≤ b.layout.width)
    (value : Int) (i : Nat) : (b.setCell p h value).raw.testBit i =
      if p.Covers b.width i then
        (value % (2 ^ p.field.width : Nat)).toNat.testBit (i - b.shift p)
      else b.raw.testBit i := by
  simp only [setCell, Bits.testBit_replace, b.covers_iff h]

theorem exists_assign {v : Value} (hv : runValue p.field.name v = .ok (b.cell p))
    (hp : p ∈ b.layout.placed) (hc : start.container = b.container) (hl : start.layout = b.layout) :
    ∃ next, start.assign (p.field.name, v) = .ok next ∧
      next.container = b.container ∧ next.layout = b.layout ∧
      ∀ i, next.raw.testBit i =
        if p.Covers b.width i then b.raw.testBit i else start.raw.testBit i := by
  have hfind : start.layout.find? p.field.name = some p := hl ▸ Layout.find?_of_mem hp
  have hfits := Layout.offset_add_width_le_of_find? hfind
  rw [assign]
  split
  · rename_i hnone
    cases hnone.symm.trans hfind
  · rename_i q hq
    cases hq.symm.trans hfind
    rw [hv]
    refine ⟨_, rfl, hc, hl, fun i ↦ ?_⟩
    have hcell : ((b.cell p : Int) % (2 ^ p.field.width : Nat)).toNat = b.cell p := by
      rw [← Int.natCast_emod, Int.toNat_natCast, Nat.mod_eq_of_lt (b.cell_lt p)]
    have hwidth : start.width = b.width := congrArg Container.width hc
    have hshift : start.shift p = b.shift p := by rw [shift, shift, hwidth]
    rw [testBit_setCell, hcell, hshift, hwidth]
    split
    · rename_i hi
      exact testBit_cell (hl ▸ hfits) hi
    · rfl

theorem exists_foldlM_assign {value : Placed → Value} (shown : List Placed)
    (hshown : ∀ p ∈ shown, p ∈ b.layout.placed ∧
      runValue p.field.name (value p) = .ok (b.cell p))
    (hc : start.container = b.container) (hl : start.layout = b.layout) :
    ∃ last, (shown.map fun p ↦ (p.field.name, value p)).foldlM assign start = .ok last ∧
      last.container = b.container ∧ last.layout = b.layout ∧ ∀ i, last.raw.testBit i =
        if ∃ p ∈ shown, p.Covers b.width i then b.raw.testBit i else start.raw.testBit i := by
  induction shown generalizing start with
  | nil => exact ⟨start, rfl, hc, hl, fun i ↦ by simp⟩
  | cons p shown ih =>
    obtain ⟨⟨hp, hv⟩, hshown⟩ := List.forall_mem_cons.1 hshown
    obtain ⟨next, hnext, hc', hl', hbits⟩ := exists_assign hv hp hc hl
    obtain ⟨last, hlast, hc'', hl'', hrest⟩ := ih hshown hc' hl'
    refine ⟨last, ?_, hc'', hl'', fun i ↦ ?_⟩
    · rw [List.map_cons, List.foldlM_cons, hnext]
      exact hlast
    · rw [hrest, hbits]
      by_cases hi : ∃ q ∈ shown, q.Covers b.width i
      · simp [hi]
      · simp [hi]

theorem exists_coerce_dict {value : Placed → Value} {shown : List Placed} {options : Value}
    (hl : (Layout.build options b.container.width b.container.name).map Subtype.val =
      .ok b.layout)
    (hshown : ∀ p ∈ shown, p ∈ b.layout.placed ∧
      runValue p.field.name (value p) = .ok (b.cell p)) :
    ∃ b', coerce b.container (.dict (shown.map fun p ↦ (p.field.name, value p))) options =
        .ok b' ∧ b'.container = b.container ∧ b'.layout = b.layout ∧
      ∀ i, b'.raw.testBit i = true ↔
        b.raw.testBit i = true ∧ ∃ p ∈ shown, p.Covers b.width i := by
  obtain ⟨layout, hbuild, hlayout⟩ := map_eq_ok.1 hl
  obtain ⟨start, hc, hl', hraw, hcoerce⟩ := exists_coerce_start hbuild
  obtain ⟨last, hlast, hc', hl'', hbits⟩ := exists_foldlM_assign shown hshown hc (hl'.trans hlayout)
  refine ⟨last, (hcoerce _).trans hlast, hc', hl'', fun i ↦ ?_⟩
  rw [hbits, hraw, Nat.zero_testBit]
  by_cases hi : ∃ p ∈ shown, p.Covers b.width i
  · rw [if_pos hi, and_iff_left hi]
  · rw [if_neg hi]
    exact iff_of_false Bool.false_ne_true fun h ↦ hi h.2

theorem exists_coerce_project {options : Value}
    (hl : (Layout.build options b.container.width b.container.name).map Subtype.val =
      .ok b.layout) :
    ∃ b', coerce b.container (.dict b.project) options = .ok b' ∧ b'.container = b.container ∧
      b'.layout = b.layout ∧
      ∀ i, b'.raw.testBit i = true ↔ b.raw.testBit i = true ∧ b.layout.Exposes b.width i := by
  have hshown : ∀ p ∈ b.layout.placed.filter fun p ↦ !p.field.isReserved, p ∈ b.layout.placed ∧
      runValue p.field.name (b.projectCell p) = .ok (b.cell p) :=
    fun p hp ↦ ⟨(List.mem_filter.1 hp).1, b.runValue_projectCell p⟩
  obtain ⟨b', hb', hc, hl', hbits⟩ := exists_coerce_dict hl hshown
  refine ⟨b', hb', hc, hl', fun i ↦ ?_⟩
  rw [hbits]
  simp [Layout.Exposes, List.mem_filter, and_assoc]

end Bitfield

end RecordCodec
