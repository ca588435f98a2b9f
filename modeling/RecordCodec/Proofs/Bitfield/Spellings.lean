import RecordCodec.Proofs.Bitfield.Cells
import RecordCodec.Proofs.Expansion.Stored

namespace RecordCodec

-- Powers of natural numbers are those of the core library.
attribute [local instance (high)] instPowNat

theorem Bits.replace_add_extract (n shift width cell : Nat) :
    replace n shift width cell + extract n shift width * 2 ^ shift =
      n + cell % 2 ^ width * 2 ^ shift := by
  have hlow := Nat.div_add_mod' n (2 ^ shift)
  have hhigh := Nat.div_add_mod' (n / 2 ^ shift) (2 ^ width)
  have hsplit : n / 2 ^ shift * 2 ^ shift =
      n / 2 ^ (shift + width) * 2 ^ (shift + width) + extract n shift width * 2 ^ shift := by
    conv_lhs => rw [← hhigh]
    rw [Nat.add_mul, Nat.div_div_eq_div_mul, ← Nat.pow_add, Nat.mul_assoc, ← Nat.pow_add,
      Nat.add_comm width, extract]
  rw [replace]
  omega

namespace Bitfield

open Layout

variable {b b' : Bitfield} {p : Placed} {entry : String × Value}

/-- What an entry adds to the integer of a bitfield. -/
def contribution (l : Layout) (width : Nat) (entry : String × Value) : Nat :=
  match l.find? entry.1, runValue entry.1 entry.2 with
  | some p, .ok n => (n % (2 ^ p.field.width : Nat)).toNat * 2 ^ (width - p.offset - p.field.width)
  | _, _ => 0

def contributions (l : Layout) (width : Nat) : List (String × Value) → Nat
  | [] => 0
  | entry :: rest => contribution l width entry + contributions l width rest

theorem contributions_of_perm {l : Layout} {width : Nat} {entries entries' : List (String × Value)}
    (h : entries.Perm entries') :
    contributions l width entries = contributions l width entries' := by
  induction h with
  | nil => rfl
  | cons entry _ ih => rw [contributions, contributions, ih]
  | swap first second rest => simp only [contributions, Nat.add_left_comm]
  | trans _ _ ih ih' => exact ih.trans ih'

theorem assign_cases (h : b.assign entry = .ok b') :
    ∃ p, ∃ hp : p ∈ b.layout.placed, ∃ n, p.field.name = entry.1 ∧
      runValue entry.1 entry.2 = .ok n ∧ b' = b.setCell p (offset_add_width_le_of_mem hp) n := by
  rw [assign] at h
  split at h
  · cases h
  · rename_i p hp
    obtain ⟨n, hn, h⟩ := bind_eq_ok.1 h
    cases h
    have hname : p.field.name = entry.1 := by simpa using List.find?_some hp
    exact ⟨p, List.mem_of_find?_eq_some hp, n, hname, hn, rfl⟩

theorem raw_setCell (hfits : p.offset + p.field.width ≤ b.layout.width) (hzero : b.cell p = 0)
    (n : Int) : (b.setCell p hfits n).raw =
      b.raw + (n % (2 ^ p.field.width : Nat)).toNat * 2 ^ b.shift p := by
  have hadd := Bits.replace_add_extract b.raw (b.shift p) p.field.width
    (n % (2 ^ p.field.width : Nat)).toNat
  have hlt := (b.setCell p hfits n).cell_lt p
  rw [cell_setCell_self] at hlt
  rw [cell] at hzero
  rw [hzero, Nat.zero_mul, Nat.add_zero, Nat.mod_eq_of_lt hlt] at hadd
  exact hadd

theorem contribution_eq (hp : p ∈ b.layout.placed) (hname : p.field.name = entry.1) {n : Int}
    (hn : runValue entry.1 entry.2 = .ok n) : contribution b.layout b.width entry =
      (n % (2 ^ p.field.width : Nat)).toNat * 2 ^ b.shift p := by
  rw [contribution, hn, ← hname, find?_of_mem hp]
  rfl

theorem raw_foldlM_assign {entries : List (String × Value)}
    (hkeys : (entries.map Prod.fst).Nodup)
    (hzero : ∀ p ∈ b.layout.placed, p.field.name ∈ entries.map Prod.fst → b.cell p = 0)
    (h : entries.foldlM assign b = .ok b') :
    b'.container = b.container ∧ b'.layout = b.layout ∧
      b'.raw = b.raw + contributions b.layout b.width entries := by
  induction entries generalizing b with
  | nil => cases h; exact ⟨rfl, rfl, rfl⟩
  | cons entry rest ih =>
    obtain ⟨hkey, hkeys⟩ := List.nodup_cons.1 hkeys
    rw [List.foldlM_cons, bind_eq_ok] at h
    obtain ⟨next, hnext, h⟩ := h
    obtain ⟨p, hp, n, hname, hn, rfl⟩ := assign_cases hnext
    have hrest : ∀ q ∈ b.layout.placed, q.field.name ∈ rest.map Prod.fst →
        (b.setCell p (offset_add_width_le_of_mem hp) n).cell q = 0 := by
      intro q hq hmem
      have hne : p ≠ q := by
        rintro rfl
        exact hkey (hname ▸ hmem)
      rw [cell_setCell_of_ne hp hq hne]
      exact hzero q hq (List.mem_cons_of_mem _ hmem)
    have hcell : b.cell p = 0 := hzero p hp (hname ▸ List.mem_cons_self)
    obtain ⟨hc, hl, hraw⟩ := ih hkeys hrest h
    refine ⟨hc, hl, ?_⟩
    rw [hraw, raw_setCell _ hcell, contributions, contribution_eq hp hname hn, Nat.add_assoc]
    rfl

section Coerce

variable {c : Container} {layout : Value} {l : { l : Layout // (l.width : Int) ≤ c.width }}
  {entries : List (String × Value)}

theorem exists_coerce_iff (hl : Layout.build layout c.width c.name = .ok l) :
    (∃ b, coerce c (.dict entries) layout = .ok b) ↔
      ∀ entry ∈ entries, entry.1 ∈ l.1.names ∧ entry.2.IsRunValue := by
  obtain ⟨start, -, hlayout, -, hcoerce⟩ := exists_coerce_start hl
  rw [hcoerce, foldlM_assign_eq_ok_iff, hlayout]

theorem raw_coerce (hl : Layout.build layout c.width c.name = .ok l)
    (hkeys : (entries.map Prod.fst).Nodup) (h : coerce c (.dict entries) layout = .ok b) :
    b.container = c ∧ b.layout = l.1 ∧
      b.raw = contributions l.1 c.width entries := by
  obtain ⟨start, rfl, hlayout, hraw, hcoerce⟩ := exists_coerce_start hl
  have hzero : ∀ p ∈ start.layout.placed, p.field.name ∈ entries.map Prod.fst →
      start.cell p = 0 := by
    intro p _ _
    rw [cell, hraw, Bits.extract, Nat.zero_div, Nat.zero_mod]
  rw [hcoerce] at h
  obtain ⟨hc, hl', hsum⟩ := raw_foldlM_assign hkeys hzero h
  rw [hraw, Nat.zero_add, hlayout] at hsum
  exact ⟨hc, hl'.trans hlayout, hsum⟩

theorem coerce_of_perm (hl : Layout.build layout c.width c.name = .ok l)
    (hkeys : (entries.map Prod.fst).Nodup) (h : coerce c (.dict entries) layout = .ok b)
    {entries' : List (String × Value)} (hperm : entries'.Perm entries) :
    coerce c (.dict entries') layout = .ok b := by
  have hall := (exists_coerce_iff hl).1 ⟨b, h⟩
  obtain ⟨b', h'⟩ := (exists_coerce_iff hl).2 fun entry hentry ↦ hall entry (hperm.subset hentry)
  have hkeys' : (entries'.map Prod.fst).Nodup := ((hperm.map _).nodup_iff).2 hkeys
  obtain ⟨hc, hlayout, hraw⟩ := raw_coerce hl hkeys h
  obtain ⟨hc', hlayout', hraw'⟩ := raw_coerce hl hkeys' h'
  rw [h', Leaf.bitfield_ext (hc'.trans hc.symm) (hlayout'.trans hlayout.symm)]
  rw [hraw, hraw', contributions_of_perm hperm]

end Coerce

def getAll (b : Bitfield) : List (String × Value) :=
  b.layout.names.filterMap fun name ↦ (b.get? name).map fun n ↦ (name, .int n)

theorem getAll_eq (b : Bitfield) :
    b.getAll = b.layout.placed.map fun p ↦ (p.field.name, .int (b.cell p)) := by
  rw [getAll, names, ← names_placeFrom b.layout.fields 0, List.filterMap_map,
    ← List.filterMap_eq_map]
  apply List.filterMap_congr
  intro p hp
  simp [get?_of_mem hp]

/-- The values that a bitfield can be written from. -/
inductive Spells (b : Bitfield) : Value → Prop
  | self : Spells b (.bits b)
  | integer : Spells b (.int b.raw)
  | mapping : Spells b (.dict b.getAll)

theorem Spells.exists_coerce {v layout : Value} (hv : b.Spells v)
    (hl : (Layout.build layout b.container.width b.container.name).map Subtype.val = .ok b.layout)
    (hfull : ∀ i < b.width, ∃ p ∈ b.layout.placed, p.Covers b.width i) {s : Source}
    (hs : s.Shows v) (data : Bytes) :
    ∃ b', coerce b.container (s.opened data) layout = .ok b' ∧ b'.raw = b.raw := by
  cases hv with
  | self =>
    rw [(hs.now_eq trivial data).2]
    exact ⟨b, if_pos rfl, rfl⟩
  | integer =>
    rw [(hs.now_eq trivial data).2]
    obtain ⟨l, hbuild, -⟩ := map_eq_ok.1 hl
    obtain ⟨b', hb', -, hraw, -⟩ := Leaf.ofRaw_eq_ok b.raw_lt hbuild
    exact ⟨b', hb', hraw⟩
  | mapping =>
    have hatoms : ∀ entry ∈ b.getAll, entry.2.IsAtom := by
      rw [getAll_eq, List.forall_mem_map]
      exact fun p _ ↦ trivial
    have hshown : ∀ p ∈ b.layout.placed, p ∈ b.layout.placed ∧
        runValue p.field.name (.int (b.cell p)) = .ok (b.cell p) :=
      fun p hp ↦ ⟨hp, rfl⟩
    rw [hs.opened_dict hatoms, getAll_eq]
    obtain ⟨b', hb', -, -, hbits⟩ := exists_coerce_dict hl hshown
    refine ⟨b', hb', Nat.eq_of_testBit_eq fun i ↦ Bool.eq_iff_iff.2 ?_⟩
    rw [hbits, and_iff_left_iff_imp]
    intro hi
    apply hfull
    by_contra hle
    have hlarge : b.raw < 2 ^ i :=
      Nat.lt_of_lt_of_le b.raw_lt (Nat.pow_le_pow_right Nat.two_pos (Nat.not_lt.1 hle))
    rw [Nat.testBit_lt_two_pow hlarge] at hi
    cases hi

theorem run_write_bits {c : Container} {layout : Value} {s : Source} {data : Bytes}
    (h : coerce c (s.opened data) layout = .ok b) (order : ByteOrder) (offset : Int) :
    ((Leaf.bits c).write order layout s offset).run data =
      match Window.start? data.length c.bytes offset with
      | some start => .ok c.bytes (Window.set data start (order.encode c.bytes b.raw))
      | none => .error (if Window.isAddress offset then .unencodable (.int b.raw) c.name
          else .indexTooLarge) data := by
  have hprepare : (Leaf.bits c).prepare layout data s = .ok (.value (.int b.raw)) := by
    rw [Leaf.prepare, h]
    rfl
  simp only [Leaf.write, EStateM.run_bind, EStateM.run_get, hprepare, Leaf.store]
  have hsize : (Leaf.bits c).size = c.bytes := rfl
  rw [hsize]
  cases Window.start? data.length c.bytes offset with
  | none => rfl
  | some start => rfl

/-- A mapping is accepted exactly if it names runs and gives each a value. The values, modulo the
sizes of their runs, then stand at the places of these, in whatever order they are given. A
bitfield that has no spare bits is written the same from any of its spellings. -/
theorem coerce_places_values (c : Container) {layout : Value}
    {l : { l : Layout // (l.width : Int) ≤ c.width }}
    (hl : Layout.build layout c.width c.name = .ok l) :
    (∀ entries, (∃ b, coerce c (.dict entries) layout = .ok b) ↔
      ∀ entry ∈ entries, entry.1 ∈ l.1.names ∧ entry.2.IsRunValue) ∧
    (∀ entries b, (entries.map Prod.fst).Nodup → coerce c (.dict entries) layout = .ok b →
      b.container = c ∧ b.layout = l.1 ∧ b.raw = contributions l.1 c.width entries ∧
      ∀ entries', entries'.Perm entries → coerce c (.dict entries') layout = .ok b) ∧
    ∀ b : Bitfield, b.container = c → b.layout = l.1 →
      (∀ i < c.width, ∃ p ∈ l.1.placed, p.Covers c.width i) →
      ∀ v, b.Spells v → ∀ (s : Source), s.Shows v →
      ∀ (order : ByteOrder) (data : Bytes) (offset : Int),
        ((Leaf.bits c).write order layout s offset).run data =
          match Window.start? data.length c.bytes offset with
          | some start => .ok c.bytes (Window.set data start (order.encode c.bytes b.raw))
          | none => .error (if Window.isAddress offset then .unencodable (.int b.raw) c.name
              else .indexTooLarge) data := by
  refine ⟨fun entries ↦ exists_coerce_iff hl, ?_, ?_⟩
  · intro entries b hkeys h
    obtain ⟨hc, hlayout, hraw⟩ := raw_coerce hl hkeys h
    exact ⟨hc, hlayout, hraw, fun entries' ↦ coerce_of_perm hl hkeys h⟩
  · rintro b rfl hlayout hfull v hv s hs order data offset
    have hl' : (Layout.build layout b.container.width b.container.name).map Subtype.val =
        .ok b.layout := map_eq_ok.2 ⟨l, hl, hlayout.symm⟩
    obtain ⟨b', hb', hraw⟩ := hv.exists_coerce hl' (hlayout ▸ hfull) hs data
    rw [run_write_bits hb', hraw]

def fullLayout : Layout :=
  ⟨[⟨"a", 1, Nat.one_pos⟩, ⟨"#pad", 3, Nat.succ_pos 2⟩, ⟨"b", 4, Nat.succ_pos 3⟩], by decide⟩

theorem coerce_places_values_full : fullLayout.IsNamed ∧
    ∃ b, coerce .bits8 (.dict [("b", .int (-2)), ("a", .bool true)]) fullLayout.options = .ok b ∧
      b.raw = 0x8E ∧
      coerce .bits8 (.dict [("a", .bool true), ("b", .int (-2))]) fullLayout.options = .ok b ∧
      ∀ v, b.Spells v →
        ((Leaf.bits .bits8).write .little fullLayout.options (.value v) 1).run [0, 0, 0] =
          .ok 1 [0, 0x8E, 0] := by
  have hnamed : fullLayout.IsNamed := by
    rw [Layout.IsNamed]
    decide +kernel
  obtain ⟨hiff, hsum, hwrite⟩ := coerce_places_values .bits8
    (Layout.build_options hnamed (by decide) Container.bits8.name)
  have hentries : ∀ entry ∈ [("b", Value.int (-2)), ("a", .bool true)],
      entry.1 ∈ fullLayout.names ∧ entry.2.IsRunValue := by
    simp only [List.forall_mem_cons]
    exact ⟨⟨by decide, trivial⟩, ⟨by decide, trivial⟩, List.forall_mem_nil _⟩
  obtain ⟨b, hb⟩ := (hiff _).2 hentries
  obtain ⟨hc, hlayout, hraw, hperm⟩ := hsum _ b (by decide) hb
  have hvalue : b.raw = 0x8E := hraw.trans (by decide +kernel)
  refine ⟨hnamed, b, hb, hvalue, hperm _ (.swap _ _ _), fun v hv ↦ ?_⟩
  have hrun := hwrite b hc hlayout (by decide) v hv _ (.value v) .little [0, 0, 0] 1
  rw [hvalue] at hrun
  exact hrun

end Bitfield

end RecordCodec
