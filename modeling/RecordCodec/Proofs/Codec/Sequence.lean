import RecordCodec.Proofs.Codec.Locality
import RecordCodec.Proofs.Codec.Stream

namespace RecordCodec

open Expansion Registry

theorem Expansion.Canonical.exists_write {x : Expansion} (hsound : x.Sound) {v : Value}
    (hv : x.Canonical v) {s : Source} (hs : s.Shows v) (order : ByteOrder) {data : Bytes}
    {start : Nat} (hfit : start + x.size ≤ data.length) :
    ∃ after, (x.write order s start).run data = .ok x.size after ∧
      Window.SameOutside start x.size data after ∧
      x.read order after start = .ok (v, x.size) := by
  have hencodes := Canonical.exists_encoding order x hsound v hv
  obtain ⟨blocks, -, -, hrun⟩ := write_of_encodings hsound order s hfit fun place hp ↦ by
    obtain ⟨block, hblock⟩ := hencodes place hp
    rw [hblock.encoding?_eq hs]
    exact nofun
  obtain ⟨-, hcomplete⟩ := complete_of_write hsound hfit hrun
  have hroom := hcomplete.length_eq.symm ▸ hfit
  refine ⟨_, hrun, hcomplete.sameOutside, ?_⟩
  refine Canonical.read_eq order _ x hsound v hv start hroom fun place hp ↦ ?_
  obtain ⟨block, hblock⟩ := hencodes place hp
  have hwindow := (hblock.encoding?_eq hs data).symm.trans (hcomplete.encoding?_eq place hp)
  rwa [← Option.some.inj hwindow]

namespace Stream

/-- A value to be written as a type of the given size, by itself or in a store. -/
structure Item where
  type : String
  size : Nat
  value : Value
  source : Source

namespace Item

/-- Whether the value is one that reading the type gives, with numbers that can be written back. -/
def IsCanonical (reg : Registry) (i : Item) : Prop :=
  i.source.Shows i.value ∧ ∃ d x, reg.find? i.type = some d ∧ d.size? = some (i.size : Int) ∧
    reg.expansion? d .none = some x ∧ x.Canonical i.value

variable {reg : Registry} {i : Item} {data : Bytes} {p : Nat}

theorem IsCanonical.size_pos (hreg : reg.WellFormed) (hi : i.IsCanonical reg) : 0 < i.size := by
  obtain ⟨-, d, -, hd, hsize, -⟩ := hi
  obtain ⟨x, -, hsound, hxsize⟩ := hreg.exists_expansion hd hsize d.admits_none
  rw [← Int.ofNat_inj.1 hxsize]
  exact hsound.size_pos

/-- An item is written to its window, and read from all buffers that have the same window. -/
theorem IsCanonical.exists_writeValue (hreg : reg.WellFormed) (hi : i.IsCanonical reg)
    (order : ByteOrder) (hroom : p + i.size ≤ data.length) :
    ∃ after, Codec.writeValue reg (.flat data true) (.int p) i.type i.source order.toValue .none =
        (.ok i.size, .flat after true) ∧
      Window.SameOutside p i.size data after ∧
      ∀ (data' : Bytes) (writable : Bool), p + i.size ≤ data'.length →
        Window.get data' p i.size = Window.get after p i.size →
        Codec.readValue reg (.flat data' writable) (.int p) i.type order.toValue .none =
          .ok (i.value, i.size) := by
  obtain ⟨hs, d, x, hd, hsize, hx, hv⟩ := hi
  obtain ⟨x', hx', hsound, hxsize⟩ := hreg.exists_expansion hd hsize d.admits_none
  cases hx.symm.trans hx'
  have hnat : x.size = i.size := Int.ofNat_inj.1 hxsize
  rw [← hnat] at hroom hsize ⊢
  have hpos := Codec.ofValue_natCast p
  obtain ⟨after, hrun, hsame, hread⟩ := hv.exists_write hsound hs order hroom
  refine ⟨after, ?_, hsame, fun data' writable hroom' hwindow ↦ ?_⟩
  · rw [Codec.writeValue_eq hd hsize hx hpos (by omega), hrun]
  · rw [Codec.readValue_eq hd hsize hx hpos (by omega), ← hread]
    exact read_eq_of_get_eq order hsound hroom' (hsame.length_eq.symm ▸ hroom) hwindow

end Item

def total : List Item → Nat
  | [] => 0
  | i :: rest => i.size + total rest

def writes (order : ByteOrder) (items : List Item) : List Operation :=
  items.map fun i ↦ .writeNext i.type i.source order.toValue

def reads (order : ByteOrder) (items : List Item) : List Operation :=
  items.map fun i ↦ .readNext i.type order.toValue

def answersFrom (answer : Item → Answer) (cursor : Nat) :
    List Item → List (Except Error Answer × Int)
  | [] => []
  | i :: rest => (.ok (answer i), (cursor + i.size : Nat)) ::
    answersFrom answer (cursor + i.size) rest

namespace Usage

variable {reg : Registry} {u : Usage} {c : Nat} {i : Item}

def moved (u : Usage) (data : Bytes) (cursor : Nat) : Usage :=
  { u with stream := { u.stream with data, cursor } }

theorem moved_self (hcursor : u.stream.cursor = c) : u.moved u.stream.data c = u := by
  rw [moved, ← hcursor]

theorem exists_perform_writeNext (hreg : reg.WellFormed) (hi : i.IsCanonical reg)
    (order : ByteOrder) (hwritable : u.stream.writable = true) (hcursor : u.stream.cursor = c)
    (hroom : c + i.size ≤ u.stream.length) :
    ∃ data, u.perform reg (.writeNext i.type i.source order.toValue) =
        (.ok (.written i.size), u.moved data (c + i.size)) ∧
      Window.SameOutside (u.stream.start + c) i.size u.stream.data data ∧
      ∀ data' : Bytes, data'.length = data.length →
        Window.get data' (u.stream.start + c) i.size =
          Window.get data (u.stream.start + c) i.size →
        (u.moved data' c).perform reg (.readNext i.type order.toValue) =
          (.ok (.value i.value), u.moved data' (c + i.size)) := by
  have hpos := hi.size_pos hreg
  rw [length] at hroom
  have htake : (u.stream.data.take u.stream.start).length = u.stream.start :=
    List.length_take_of_le (by omega)
  have hroom' : c + i.size ≤ (u.stream.data.drop u.stream.start).length := by
    rw [List.length_drop]
    exact hroom
  obtain ⟨after, hwrite, hsame, hread⟩ := hi.exists_writeValue hreg order hroom'
  have hsame' := hsame.behind (u.stream.data.take u.stream.start)
  rw [htake, List.take_append_drop] at hsame'
  refine ⟨u.stream.data.take u.stream.start ++ after, ?_, hsame', fun data' hlength hwindow ↦ ?_⟩
  · simp only [perform, writeNext, writeAt, tail, withTail, hwritable, hcursor, hwrite, moved,
      Int.natCast_add]
    rfl
  · rw [← Window.get_drop, ← Window.get_drop, List.drop_left' htake] at hwindow
    have hfit : c + i.size ≤ (data'.drop u.stream.start).length := by
      rw [List.length_drop, hlength, hsame'.length_eq]
      exact hroom
    have hvalue := hread _ u.stream.writable hfit hwindow
    simp only [perform, readNext, moved, tail, hvalue, ok_bind]
    rfl

/-- Items that are written next, one after the other, can be read in the same way. -/
theorem exists_performAll_writes (hreg : reg.WellFormed) (order : ByteOrder) {items : List Item}
    (hitems : ∀ i ∈ items, i.IsCanonical reg) (hwritable : u.stream.writable = true)
    (hcursor : u.stream.cursor = c) (hroom : c + total items ≤ u.stream.length) :
    ∃ data, u.performAll reg (writes order items) =
        (answersFrom (fun i ↦ .written i.size) c items, u.moved data (c + total items)) ∧
      Window.SameOutside (u.stream.start + c) (total items) u.stream.data data ∧
      (u.moved data c).performAll reg (reads order items) =
        (answersFrom (fun i ↦ .value i.value) c items, u.moved data (c + total items)) := by
  induction items generalizing u c with
  | nil =>
    have hself := moved_self hcursor
    refine ⟨u.stream.data, ?_, .refl _ _ _, ?_⟩
    · exact congrArg (Prod.mk []) hself.symm
    · rfl
  | cons i rest ih =>
    rw [total] at hroom
    have hroom' : c + i.size ≤ u.stream.length := by omega
    obtain ⟨data, hwrite, hsame, hread⟩ := exists_perform_writeNext hreg
      (hitems i List.mem_cons_self) order hwritable hcursor hroom'
    have hlength : (u.moved data (c + i.size)).stream.length = u.stream.length :=
      congrArg (· - u.stream.start) hsame.length_eq
    obtain ⟨data', hwrites, hsame', hreads⟩ := ih (u := u.moved data (c + i.size))
      (fun j hj ↦ hitems j (List.mem_cons_of_mem _ hj)) hwritable rfl (by omega)
    have hstart : (u.moved data (c + i.size)).stream.start = u.stream.start := rfl
    rw [hstart, ← Nat.add_assoc] at hsame'
    -- the bytes of the first item are those that it was written as
    have hfirst : Window.SameOn (u.stream.start + c) i.size data data' :=
      hsame'.sameOn (.inl (Nat.le_refl _))
    refine ⟨data', ?_, hsame.append hsame', ?_⟩
    · rw [writes, List.map_cons, performAll, hwrite]
      simp only [writes] at hwrites
      simp only [hwrites, total, ← Nat.add_assoc]
      rfl
    · rw [reads, List.map_cons, performAll, hread data' hsame'.length_eq hfirst.get_eq]
      simp only [reads] at hreads
      have hmoved : u.moved data' (c + i.size) =
          (u.moved data (c + i.size)).moved data' (c + i.size) := rfl
      simp only [hmoved, hreads, total, ← Nat.add_assoc]
      rfl

end Usage

/-- Canonical values that are written next, one after the other, all go through and take up their
sizes. Back where the first one began they are read one after the other as they were, up to where
the cursor had been. No byte in front of them or behind them changes. -/
theorem reads_after_writes (schemas : List (String × String)) (order : ByteOrder) {u : Usage}
    {c : Nat} (hwritable : u.stream.writable = true) (hcursor : u.stream.cursor = c)
    {items : List Item} (hitems : ∀ i ∈ items, i.IsCanonical (standard.attemptAll schemas))
    (hroom : c + total items ≤ u.stream.length) :
    ∃ data, u.performAll (standard.attemptAll schemas) (writes order items) =
        (answersFrom (fun i ↦ .written i.size) c items, u.moved data (c + total items)) ∧
      Window.SameOutside (u.stream.start + c) (total items) u.stream.data data ∧
      (u.moved data (c + total items)).performAll (standard.attemptAll schemas)
          (.seek (.int c) (.int 0) :: reads order items) =
        ((.ok .done, (c : Int)) :: answersFrom (fun i ↦ .value i.value) c items,
          u.moved data (c + total items)) := by
  obtain ⟨data, hwrites, hsame, hreads⟩ := Usage.exists_performAll_writes
    (wellFormed_attemptAll schemas) order hitems hwritable hcursor hroom
  refine ⟨data, hwrites, hsame, ?_⟩
  have hseek : (u.moved data (c + total items)).perform (standard.attemptAll schemas)
      (.seek (.int c) (.int 0)) = (.ok .done, u.moved data c) := rfl
  rw [Usage.performAll, hseek]
  simp only [hreads]
  rfl

theorem isCanonical_leaf {reg : Registry} (hreg : reg.WellFormed) {l : Leaf} {v : Value}
    (hv : l.Canonical .none v) : Item.IsCanonical reg ⟨l.name, l.size, v, .value v⟩ := by
  obtain ⟨bound, hbound⟩ := reg.exists_nestingBound
  refine ⟨.value v, _, .leaf l .none, hreg.find?_leaf l, rfl, ?_, hv⟩
  rw [expansion?, hbound, expandWithin]
  exact if_pos rfl

def rowItems : List Item :=
  [⟨"Row", 18, Codec.rowValue, .value Codec.rowValue⟩, ⟨"u16", 2, .int 513, .value (.int 513)⟩,
    ⟨"char", 1, .text "z", .value (.text "z")⟩]

theorem reads_after_writes_row :
    let reg := standard.attemptAll Codec.rowSchemas
    let u : Usage := ⟨⟨List.replicate 40 0, true, 2, 3⟩, []⟩
    (∀ i ∈ rowItems, i.IsCanonical reg) ∧ 3 + total rowItems ≤ u.stream.length ∧
    ∃ data, u.performAll reg (writes .little rowItems) =
        ([(.ok (.written 18), 21), (.ok (.written 2), 23), (.ok (.written 1), 24)],
          u.moved data 24) ∧
      Window.SameOutside 5 21 (List.replicate 40 0) data ∧
      (u.moved data 24).performAll reg (.seek (.int 3) (.int 0) :: reads .little rowItems) =
        ([(.ok .done, 3), (.ok (.value Codec.rowValue), 21), (.ok (.value (.int 513)), 23),
          (.ok (.value (.text "z")), 24)], u.moved data 24) := by
  intro reg u
  have hreg : reg.WellFormed := wellFormed_attemptAll Codec.rowSchemas
  have hrow : Item.IsCanonical reg ⟨"Row", 18, Codec.rowValue, .value Codec.rowValue⟩ := by
    obtain ⟨r, hr, hsize, hexpansion⟩ := Codec.find?_row
    exact ⟨.value _, _, _, hr, congrArg some hsize, hexpansion, Codec.canonical_rowValue⟩
  have hint : (Leaf.int false .two).Canonical .none (.int 513) := ⟨by decide, by decide⟩
  have hchar : Leaf.char.Canonical .none (.text "z") := ⟨'z', rfl, by decide⟩
  have hitems : ∀ i ∈ rowItems, i.IsCanonical reg := by
    rw [rowItems, List.forall_mem_cons, List.forall_mem_cons, List.forall_mem_singleton]
    exact ⟨hrow, isCanonical_leaf hreg hint, isCanonical_leaf hreg hchar⟩
  have hroom : 3 + total rowItems ≤ u.stream.length := by decide
  exact ⟨hitems, hroom, reads_after_writes Codec.rowSchemas .little rfl rfl hitems hroom⟩

end Stream

end RecordCodec
