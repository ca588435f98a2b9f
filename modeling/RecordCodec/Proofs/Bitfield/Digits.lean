import RecordCodec.Proofs.Bitfield.Cells

namespace RecordCodec

-- Powers of natural numbers are those of the core library.
attribute [local instance (high)] instPowNat

namespace Bits

theorem length_digits (width n : Nat) : (digits width n).length = width := by
  simp [digits]

theorem digits_add (m k n : Nat) : digits (m + k) n = digits m (n / 2 ^ k) ++ digits k n := by
  induction k generalizing n with
  | zero => simp [digits]
  | succ k ih =>
    rw [← Nat.add_assoc, digits_succ, ih, digits_succ k, Nat.div_div_eq_div_mul, ← Nat.pow_succ',
      List.append_assoc]

theorem digits_mod (width n : Nat) : digits width (n % 2 ^ width) = digits width n := by
  apply List.map_congr_left
  intro i hi
  have hi := List.mem_range.1 hi
  rw [Nat.testBit_mod_two_pow, decide_eq_true (by omega), Bool.true_and]

theorem take_drop_digits (offset width shift n : Nat) :
    ((digits (offset + width + shift) n).drop offset).take width =
      digits width (extract n shift width) := by
  have hfront := length_digits offset (n / 2 ^ shift / 2 ^ width)
  have hwindow := length_digits width (n / 2 ^ shift)
  rw [digits_add, digits_add, List.append_assoc, List.drop_left' hfront, List.take_left' hwindow,
    extract, digits_mod]

end Bits

/-- The digits of a run among those of its container. -/
def Placed.digitsIn (p : Placed) (digits : List Char) : List Char :=
  (digits.drop p.offset).take p.field.width

namespace Bitfield

open Numeral

variable {b : Bitfield} {p : Placed}

theorem digitsIn_digits (hp : p ∈ b.layout.placed) :
    p.digitsIn (Bits.digits b.width b.raw) = Bits.digits p.field.width (b.cell p) := by
  have hfits := Layout.offset_add_width_le_of_mem hp
  have hroom := b.fits
  have hwidth : b.width = p.offset + p.field.width + b.shift p := by
    rw [shift, width]
    omega
  rw [Placed.digitsIn, hwidth, Bits.take_drop_digits, cell]

theorem ofDigits_digitsIn (hp : p ∈ b.layout.placed) :
    ofDigits 2 ((p.digitsIn (Bits.digits b.width b.raw)).map bitValue) = b.cell p := by
  rw [digitsIn_digits hp, Bits.ofDigits_digits, Nat.mod_eq_of_lt (b.cell_lt p)]

def shownDigits (digits : List Char) : Value :=
  if digits.length = 1 then .bool (digits = ['1']) else .text ("0b" ++ String.ofList digits)

theorem projectCell_eq (hp : p ∈ b.layout.placed) :
    b.projectCell p = shownDigits (p.digitsIn (Bits.digits b.width b.raw)) := by
  have hcell := b.cell_lt p
  rw [digitsIn_digits hp, projectCell, shownDigits, Bits.length_digits]
  split
  · rename_i hwidth
    rw [hwidth] at hcell ⊢
    have hbit : b.cell p = 0 ∨ b.cell p = 1 := by omega
    rcases hbit with h | h <;> rw [h] <;> rfl
  · rfl

theorem exists_new {c : Container} {layout : Value}
    {l : { l : Layout // (l.width : Int) ≤ c.width }}
    (hl : Layout.build layout c.width c.name = .ok l) {raw : Nat} (hraw : raw < 2 ^ c.width) :
    ∃ b, new c.width (.int raw) layout = .ok b ∧ b.container = c ∧ b.layout = l.1 ∧
      b.raw = raw := by
  obtain ⟨b, hb, hc, hr, hlayout⟩ := Leaf.ofRaw_eq_ok hraw hl
  have hwidth : Container.ofWidth? c.width = some c := by
    cases c <;> rfl
  refine ⟨b, ?_, hc, hlayout, hr⟩
  rw [new, hwidth]
  exact hb

/-- A bitfield is shown by as many binary digits as its container has bits. The value of a run is
that of its window of the digits, and runs that are not reserved are shown by their windows. What is
shown is read as the bits of these runs, and no others. -/
theorem new_shows_digits (c : Container) {layout : Value}
    {l : { l : Layout // (l.width : Int) ≤ c.width }}
    (hl : Layout.build layout c.width c.name = .ok l) {raw : Nat} (hraw : raw < 2 ^ c.width) :
    ∃ (b : Bitfield) (digits : List Char), new c.width (.int raw) layout = .ok b ∧
      b.container = c ∧ b.layout = l.1 ∧ b.raw = raw ∧
      b.binary = "0b" ++ String.ofList digits ∧ digits.length = c.width ∧
      (∀ d ∈ digits, IsBinaryDigit d) ∧ ofDigits 2 (digits.map bitValue) = raw ∧
      (∀ p ∈ l.1.placed, (p.digitsIn digits).length = p.field.width ∧
        b.get? p.field.name = some (ofDigits 2 ((p.digitsIn digits).map bitValue))) ∧
      b.project = (l.1.placed.filter fun p ↦ !p.field.isReserved).map
        (fun p ↦ (p.field.name, shownDigits (p.digitsIn digits))) ∧
      ∃ b', coerce c (.dict b.project) layout = .ok b' ∧ b'.container = c ∧ b'.layout = l.1 ∧
        ∀ i, b'.raw.testBit i = true ↔ raw.testBit i = true ∧ l.1.Exposes c.width i := by
  obtain ⟨b, hb, rfl, hlayout, rfl⟩ := exists_new hl hraw
  obtain ⟨b', hb', hc, hl', hbits⟩ :=
    exists_coerce_project (map_eq_ok.2 ⟨l, hl, hlayout.symm⟩)
  rw [← hlayout]
  refine ⟨b, Bits.digits b.width b.raw, hb, rfl, rfl, rfl, rfl, Bits.length_digits _ _,
    fun _ ↦ Bits.isBinaryDigit_of_mem_digits, ?_, ?_, ?_, b', hb', hc, hl', hbits⟩
  · rw [Bits.ofDigits_digits]
    exact Nat.mod_eq_of_lt hraw
  · intro p hp
    rw [ofDigits_digitsIn hp, digitsIn_digits hp, Bits.length_digits]
    exact ⟨rfl, get?_of_mem hp⟩
  · apply List.map_congr_left
    intro p hp
    rw [projectCell_eq (List.mem_filter.1 hp).1]

theorem new_shows_digits_split : splitLayout.IsNamed ∧ 0xB7A5 < 2 ^ Container.bits16.width ∧
    ∃ (b : Bitfield) (digits : List Char), new 16 (.int 0xB7A5) splitLayout.options = .ok b ∧
      b.binary = "0b" ++ String.ofList digits ∧ digits.length = 16 ∧
      ∃ b', coerce .bits16 (.dict b.project) splitLayout.options = .ok b' ∧
        b'.raw.testBit 0 = false := by
  have hnamed : splitLayout.IsNamed := by
    rw [Layout.IsNamed]
    decide +kernel
  have hraw : 0xB7A5 < 2 ^ Container.bits16.width := by decide
  obtain ⟨b, digits, hb, -, -, -, hbinary, hlength, -, -, -, -, b', hb', -, -, hbits⟩ :=
    new_shows_digits .bits16 (Layout.build_options hnamed (by decide) Container.bits16.name) hraw
  refine ⟨hnamed, hraw, b, digits, hb, hbinary, hlength, b', hb', ?_⟩
  have hlowest : ¬ ∃ p ∈ splitLayout.placed, p.Covers Container.bits16.width 0 := by decide
  rw [← Bool.not_eq_true, hbits]
  rintro ⟨-, p, hp, -, hcovers⟩
  exact hlowest ⟨p, hp, hcovers⟩

end Bitfield

end RecordCodec
