import Mathlib.Data.List.Pairwise
import RecordCodec.Proofs.Bitfield.Layout
import RecordCodec.Proofs.Bitfield.Projection

namespace RecordCodec

-- Powers of natural numbers are those of the core library.
attribute [local instance (high)] instPowNat

namespace Placed

def Apart (p q : Placed) : Prop :=
  p.offset + p.field.width ≤ q.offset ∨ q.offset + q.field.width ≤ p.offset

instance : Std.Symm Apart :=
  ⟨fun _ _ ↦ Or.symm⟩

theorem Apart.not_covers {p q : Placed} {width i : Nat} (h : p.Apart q)
    (hi : q.Covers width i) : ¬ p.Covers width i := by
  intro hi'
  simp only [Apart, Covers] at h hi hi'
  omega

end Placed

namespace Layout

variable {l : Layout} {fields : List SubField} {offset : Nat} {p q : Placed}

theorem le_offset_of_mem_placeFrom (h : p ∈ placeFrom offset fields) : offset ≤ p.offset := by
  induction fields generalizing offset with
  | nil => cases h
  | cons f rest ih =>
    rw [placeFrom] at h
    rcases List.mem_cons.1 h with rfl | h
    · exact Nat.le_refl _
    · exact Nat.le_of_add_right_le (ih h)

theorem pairwise_placeFrom (offset : Nat) (fields : List SubField) :
    (placeFrom offset fields).Pairwise fun p q ↦ p.offset + p.field.width ≤ q.offset := by
  induction fields generalizing offset with
  | nil => exact .nil
  | cons f rest ih =>
    rw [placeFrom]
    exact .cons (fun q hq ↦ le_offset_of_mem_placeFrom hq) (ih (offset + f.width))

theorem apart_of_mem (hp : p ∈ l.placed) (hq : q ∈ l.placed) (hne : p ≠ q) : p.Apart q := by
  have hapart : l.placed.Pairwise Placed.Apart := (pairwise_placeFrom 0 l.fields).imp Or.inl
  exact hapart.forall hp hq hne

theorem offset_add_width_le_of_mem (hp : p ∈ l.placed) : p.offset + p.field.width ≤ l.width :=
  offset_add_width_le_of_find? (find?_of_mem hp)

theorem mem_names_iff {name : String} :
    name ∈ l.names ↔ ∃ p ∈ l.placed, p.field.name = name := by
  rw [names, ← names_placeFrom l.fields 0, List.mem_map]
  rfl

end Layout

namespace Bitfield

open Layout

variable {b b' : Bitfield} {p q : Placed} {name : String} {value : Int}

theorem get?_of_mem (hp : p ∈ b.layout.placed) : b.get? p.field.name = some (b.cell p) := by
  rw [get?, find?_of_mem hp, Option.map_some]

theorem cell_eq_of_testBit (hwidth : b'.width = b.width)
    (hfits : p.offset + p.field.width ≤ b.layout.width)
    (h : ∀ i, p.Covers b.width i → b'.raw.testBit i = b.raw.testBit i) : b'.cell p = b.cell p := by
  have hshift : b'.shift p = b.shift p := by rw [shift, shift, hwidth]
  rw [cell, cell, hshift]
  apply Nat.eq_of_testBit_eq
  intro i
  rw [Bits.testBit_extract, Bits.testBit_extract]
  by_cases hi : i < p.field.width
  · rw [h _ ((b.covers_iff hfits _).1 (by omega))]
  · rw [decide_eq_false hi, Bool.false_and, Bool.false_and]

theorem cell_setCell_self (b : Bitfield) (h : p.offset + p.field.width ≤ b.layout.width)
    (value : Int) :
    (b.setCell p h value).cell p = (value % (2 ^ p.field.width : Nat)).toNat := by
  have hlt : (value % (2 ^ p.field.width : Nat)).toNat < 2 ^ p.field.width := by
    have hpos : 0 < ((2 ^ p.field.width : Nat) : Int) := Int.natCast_pos.2 (Nat.two_pow_pos _)
    have hnonneg := Int.emod_nonneg value (Int.ne_of_gt hpos)
    have hlt := Int.emod_lt_of_pos value hpos
    omega
  apply Nat.eq_of_testBit_eq
  intro i
  rw [cell, Bits.testBit_extract, testBit_setCell]
  by_cases hi : i < p.field.width
  · have hcovers : p.Covers b.width (i + b.shift p) := (b.covers_iff h _).1 (by omega)
    have hshift : (b.setCell p h value).shift p = b.shift p := rfl
    rw [hshift, if_pos hcovers, Nat.add_sub_cancel, decide_eq_true hi, Bool.true_and]
  · rw [decide_eq_false hi, Bool.false_and]
    have hle : 2 ^ p.field.width ≤ 2 ^ i := Nat.pow_le_pow_right Nat.two_pos (Nat.not_lt.1 hi)
    exact (Nat.testBit_lt_two_pow (Nat.lt_of_lt_of_le hlt hle)).symm

theorem cell_setCell_of_ne (hp : p ∈ b.layout.placed) (hq : q ∈ b.layout.placed) (hne : p ≠ q)
    (h : p.offset + p.field.width ≤ b.layout.width) :
    (b.setCell p h value).cell q = b.cell q := by
  refine cell_eq_of_testBit rfl (offset_add_width_le_of_mem hq) ?_
  intro i hi
  rw [testBit_setCell, if_neg ((apart_of_mem hp hq hne).not_covers hi)]

/-- A request to set a run; without such a run it fails. -/
def request (b : Bitfield) (name : String) (value : Int) : Except Error Unit × Bitfield :=
  match b.set? name value with
  | some after => (.ok (), after)
  | none => (.error (.noRun b.container.name name), b)

def requestAll (b : Bitfield) : List (String × Int) → List (Except Error Unit) × Bitfield
  | [] => ([], b)
  | (name, value) :: rest =>
    let (answer, after) := b.request name value
    let (answers, last) := after.requestAll rest
    (answer :: answers, last)

theorem requestAll_cons (b : Bitfield) (r : String × Int) (rest : List (String × Int)) :
    b.requestAll (r :: rest) =
      let answered := b.request r.1 r.2
      let left := answered.2.requestAll rest
      (answered.1 :: left.1, left.2) :=
  rfl

theorem request_of_not_mem (hname : name ∉ b.layout.names) :
    b.request name value = (.error (.noRun b.container.name name), b) := by
  have hset : b.set? name value = none := by
    rw [set?]
    split
    · rfl
    · rename_i q hq
      cases hq.symm.trans (find?_eq_none_iff.2 hname)
  rw [request, hset]

/-- All that a request can do. -/
theorem request_cases (b : Bitfield) (name : String) (value : Int) :
    (∃ p, ∃ hp : p ∈ b.layout.placed, p.field.name = name ∧
      b.request name value = (.ok (), b.setCell p (offset_add_width_le_of_mem hp) value)) ∨
    name ∉ b.layout.names ∧
      b.request name value = (.error (.noRun b.container.name name), b) := by
  by_cases hname : name ∈ b.layout.names
  · obtain ⟨p, hp, rfl⟩ := mem_names_iff.1 hname
    refine .inl ⟨p, hp, rfl, ?_⟩
    have hset : b.set? p.field.name value =
        some (b.setCell p (offset_add_width_le_of_mem hp) value) := by
      rw [set?]
      split
      · rename_i hnone
        cases hnone.symm.trans (find?_of_mem hp)
      · rename_i q hq
        cases hq.symm.trans (find?_of_mem hp)
        rfl
    rw [request, hset]
  · exact .inr ⟨hname, request_of_not_mem hname⟩

theorem request_keeps (b : Bitfield) (name : String) (value : Int) :
    (b.request name value).2.container = b.container ∧
      (b.request name value).2.layout = b.layout := by
  rcases b.request_cases name value with ⟨p, hp, -, h⟩ | ⟨-, h⟩
  · rw [h]
    exact ⟨rfl, rfl⟩
  · rw [h]
    exact ⟨rfl, rfl⟩

theorem cell_request (hq : q ∈ b.layout.placed) : (b.request name value).2.cell q =
    if q.field.name = name then (value % (2 ^ q.field.width : Nat)).toNat else b.cell q := by
  rcases b.request_cases name value with ⟨p, hp, rfl, h⟩ | ⟨hname, h⟩
  · rw [h]
    split
    · rename_i heq
      have hpq : p = q := Option.some_inj.1 (by rw [← find?_of_mem hp, ← heq, find?_of_mem hq])
      subst hpq
      exact cell_setCell_self b (offset_add_width_le_of_mem hq) value
    · rename_i hne
      refine cell_setCell_of_ne hp hq ?_ (offset_add_width_le_of_mem hp)
      rintro rfl
      exact hne rfl
  · have hne : q.field.name ≠ name := by
      rintro rfl
      exact hname (mem_names_iff.2 ⟨q, hq, rfl⟩)
    rw [h, if_neg hne]

theorem testBit_request {i : Nat} (hi : ∀ p ∈ b.layout.placed, ¬ p.Covers b.width i) :
    (b.request name value).2.raw.testBit i = b.raw.testBit i := by
  rcases b.request_cases name value with ⟨p, hp, -, h⟩ | ⟨-, h⟩
  · rw [h, testBit_setCell, if_neg (hi p hp)]
  · rw [h]

theorem requestAll_keeps (requests : List (String × Int)) (b : Bitfield) :
    (b.requestAll requests).2.container = b.container ∧
      (b.requestAll requests).2.layout = b.layout := by
  induction requests generalizing b with
  | nil => exact ⟨rfl, rfl⟩
  | cons r rest ih =>
    obtain ⟨hc, hl⟩ := ih (b.request r.1 r.2).2
    obtain ⟨hc', hl'⟩ := b.request_keeps r.1 r.2
    exact ⟨hc.trans hc', hl.trans hl'⟩

theorem answers_requestAll (requests : List (String × Int)) (b : Bitfield) :
    (b.requestAll requests).1 = requests.map fun r ↦
      if r.1 ∈ b.layout.names then .ok () else .error (.noRun b.container.name r.1) := by
  induction requests generalizing b with
  | nil => rfl
  | cons r rest ih =>
    obtain ⟨hc, hl⟩ := b.request_keeps r.1 r.2
    simp only [List.map_cons, requestAll_cons, ih, hc, hl]
    refine congrArg (· :: _) ?_
    rcases b.request_cases r.1 r.2 with ⟨p, hp, hname, h⟩ | ⟨hname, h⟩
    · rw [h, if_pos (mem_names_iff.2 ⟨p, hp, hname⟩)]
    · rw [h, if_neg hname]

theorem cell_requestAll (requests : List (String × Int)) (hp : p ∈ b.layout.placed) :
    (b.requestAll requests).2.cell p =
      match requests.reverse.lookup p.field.name with
      | some value => (value % (2 ^ p.field.width : Nat)).toNat
      | none => b.cell p := by
  induction requests generalizing b with
  | nil => rfl
  | cons r rest ih =>
    have hp' : p ∈ (b.request r.1 r.2).2.layout.placed := by rwa [(b.request_keeps r.1 r.2).2]
    rw [requestAll_cons, ih hp', List.reverse_cons, List.lookup_append]
    cases rest.reverse.lookup p.field.name with
    | some value => rfl
    | none =>
      rw [cell_request hp, Option.none_or, List.lookup_cons]
      by_cases hname : p.field.name = r.1
      · rw [if_pos hname, beq_iff_eq.2 hname]
      · rw [if_neg hname, beq_false_of_ne hname]
        rfl

theorem testBit_requestAll {i : Nat} (requests : List (String × Int))
    (hi : ∀ p ∈ b.layout.placed, ¬ p.Covers b.width i) :
    (b.requestAll requests).2.raw.testBit i = b.raw.testBit i := by
  induction requests generalizing b with
  | nil => rfl
  | cons r rest ih =>
    obtain ⟨hc, hl⟩ := b.request_keeps r.1 r.2
    have hwidth : (b.request r.1 r.2).2.width = b.width := congrArg Container.width hc
    have hi' : ∀ p ∈ (b.request r.1 r.2).2.layout.placed,
        ¬ p.Covers (b.request r.1 r.2).2.width i := by
      rwa [hl, hwidth]
    rw [requestAll_cons, ih hi', testBit_request hi]

/-- Whatever is asked for in whatever order, the integer stays in its container. A run holds the
value that it was given last, modulo its own size, or else what it held at first; the bits of no run
never change. A request for an unknown run fails, then and there, and changes nothing. -/
theorem requestAll_sets_cells (c : Container) {layout : Value}
    {l : { l : Layout // (l.width : Int) ≤ c.width }}
    (hl : Layout.build layout c.width c.name = .ok l) {raw : Nat} (hraw : raw < 2 ^ c.width) :
    ∃ b, new c.width (.int raw) layout = .ok b ∧ b.container = c ∧ b.layout = l.1 ∧ b.raw = raw ∧
      ∀ requests : List (String × Int),
        let after := (b.requestAll requests).2
        (b.requestAll requests).1 = requests.map (fun r ↦
          if r.1 ∈ l.1.names then .ok () else .error (.noRun c.name r.1)) ∧
        (∀ name ∉ l.1.names, ∀ value,
          after.request name value = (.error (.noRun c.name name), after)) ∧
        after.raw < 2 ^ c.width ∧
        (∀ p ∈ l.1.placed, after.get? p.field.name =
          match requests.reverse.lookup p.field.name with
          | some value => some (value % (2 ^ p.field.width : Nat)).toNat
          | none => b.get? p.field.name) ∧
        ∀ i, (∀ p ∈ l.1.placed, ¬ p.Covers c.width i) →
          after.raw.testBit i = raw.testBit i := by
  obtain ⟨b, hb, rfl, rfl, hlayout⟩ := Leaf.ofRaw_eq_ok hraw hl
  have hnew : new b.container.width (.int b.raw) layout = .ok b := by
    rw [new]
    have hwidth : Container.ofWidth? b.container.width = some b.container := by
      cases b.container <;> rfl
    rw [hwidth]
    exact hb
  refine ⟨b, hnew, rfl, hlayout, rfl, fun requests ↦ ?_⟩
  obtain ⟨hc, hl'⟩ := requestAll_keeps requests b
  rw [← hlayout]
  refine ⟨answers_requestAll requests b, fun name hname value ↦ ?_, ?_, fun p hp ↦ ?_,
    fun i hi ↦ testBit_requestAll requests hi⟩
  · rw [request_of_not_mem (by rwa [hl']), hc]
  · rw [← hc]
    exact (b.requestAll requests).2.raw_lt
  · rw [get?_of_mem (by rwa [hl']), cell_requestAll requests hp, get?_of_mem hp]
    split <;> rfl

def splitLayout : Layout :=
  ⟨[⟨"a", 5, by decide⟩, ⟨"#pad", 4, by decide⟩, ⟨"b", 6, by decide⟩], by decide⟩

def splitRequests : List (String × Int) :=
  [("a", -1), ("c", 5), ("b", 1), ("a", 1000), ("b", -2)]

theorem requestAll_sets_cells_split : splitLayout.IsNamed ∧
    0xB7A5 < 2 ^ Container.bits16.width ∧
    ∃ b, new 16 (.int 0xB7A5) splitLayout.options = .ok b ∧
      let after := (b.requestAll splitRequests).2
      (b.requestAll splitRequests).1 =
        [.ok (), .error (.noRun "Bitfield16" "c"), .ok (), .ok (), .ok ()] ∧
      after.get? "a" = some 8 ∧ after.get? "b" = some 62 ∧ after.get? "#pad" = b.get? "#pad" ∧
      after.raw.testBit 0 = true := by
  have hnamed : splitLayout.IsNamed := by
    rw [IsNamed]
    decide +kernel
  have hraw : 0xB7A5 < 2 ^ Container.bits16.width := by decide
  obtain ⟨b, hb, -, -, -, hall⟩ := requestAll_sets_cells .bits16
    (Layout.build_options hnamed (by decide) Container.bits16.name) hraw
  obtain ⟨hanswers, -, -, hcells, hbits⟩ := hall splitRequests
  refine ⟨hnamed, hraw, b, hb, hanswers, ?_, ?_, ?_, ?_⟩
  · exact hcells ⟨⟨"a", 5, by decide⟩, 0⟩ (by decide)
  · exact hcells ⟨⟨"b", 6, by decide⟩, 9⟩ (by decide)
  · exact hcells ⟨⟨"#pad", 4, by decide⟩, 5⟩ (by decide)
  · exact hbits 0 (by decide)

end Bitfield

end RecordCodec
