import RecordCodec.Descriptor
import RecordCodec.Proofs.Outcome

namespace RecordCodec

namespace Value

theorem insertEntry_of_not_mem {α : Type} {key : String} {item : α} {entries : List (String × α)}
    (h : key ∉ entries.map Prod.fst) : insertEntry key item entries = entries ++ [(key, item)] := by
  induction entries with
  | nil => rfl
  | cons entry rest ih =>
    simp only [List.map_cons, List.mem_cons, not_or] at h
    rw [insertEntry, if_neg (Ne.symm h.1), ih h.2, List.cons_append]

theorem entriesOf_of_nodup {α : Type} {pairs : List (String × α)}
    (h : (pairs.map Prod.fst).Nodup) : entriesOf pairs = pairs := by
  suffices hfold : ∀ front : List (String × α), ((front ++ pairs).map Prod.fst).Nodup →
      pairs.foldl (fun entries pair ↦ insertEntry pair.1 pair.2 entries) front = front ++ pairs by
    exact hfold [] h
  clear h
  induction pairs with
  | nil => simp
  | cons pair rest ih =>
    intro front hn
    have hnot : pair.1 ∉ front.map Prod.fst := by
      rw [List.map_append, List.nodup_append] at hn
      exact fun hm ↦ hn.2.2 _ hm _ List.mem_cons_self rfl
    rw [List.foldl_cons, insertEntry_of_not_mem hnot, ih _ (by simpa using hn)]
    simp

end Value

namespace Layout

@[ext]
theorem ext_fields {l l' : Layout} (h : l.fields = l'.fields) : l = l' := by
  cases l; cases l'; cases h; rfl

def IsNamed (l : Layout) : Prop :=
  ∀ f ∈ l.fields, isBareMark f.name = false

def pairs (l : Layout) : List (String × Int) :=
  l.fields.map fun f ↦ (f.name, (f.width : Int))

def valuePairs (l : Layout) : List (Value × Value) :=
  l.pairs.map fun entry ↦ (.text entry.1, .int entry.2)

def options (l : Layout) : Value :=
  .dict (l.pairs.map fun entry ↦ (entry.1, .int entry.2))

theorem pairs_nodup (l : Layout) : (l.pairs.map Prod.fst).Nodup := by
  simpa [pairs, Function.comp_def] using l.nodup

theorem valuePairs_eq (l : Layout) :
    l.valuePairs = l.fields.map fun f ↦ (Value.text f.name, Value.int f.width) := by
  simp [valuePairs, pairs]

theorem pairs_of_valuePairs {l : Layout} {entries : List (String × Int)}
    (h : l.valuePairs = entries.map fun entry ↦ (.text entry.1, .int entry.2)) :
    l.pairs = entries := by
  refine List.map_injective_iff.2 ?_ h
  rintro ⟨name, width⟩ ⟨name', width'⟩ h
  cases h
  rfl

theorem valuePairs_injective : Function.Injective valuePairs := by
  intro l l' h
  apply ext_fields
  refine List.map_injective_iff.2 ?_ (pairs_of_valuePairs h)
  rintro ⟨name, width, _⟩ ⟨name', width', _⟩ h
  simp only [Prod.mk.injEq, Int.natCast_inj] at h
  obtain ⟨rfl, rfl⟩ := h
  rfl

def IsRunName (name : Value) : Prop :=
  ∃ s, name = .text s ∧ ∃ c ∈ s.toList, c ≠ '#'

def IsRunWidth (width : Value) : Prop :=
  ∃ n, width = .int n ∧ 0 < n

/-- What pairs have to satisfy to be the runs of a layout. -/
structure AreRuns (pairs : List (Value × Value)) : Prop where
  names : ∀ pair ∈ pairs, IsRunName pair.1
  nodup : (pairs.map Prod.fst).Nodup
  widths : ∀ pair ∈ pairs, IsRunWidth pair.2

/-- What is wrong with a pair that follows others. -/
inductive Fault (front : List (Value × Value)) : Value × Value → Error → Prop
  | name {name width : Value} : ¬ IsRunName name → Fault front (name, width) (.runName name)
  | repeated {s : String} {width : Value} : IsRunName (.text s) → .text s ∈ front.map Prod.fst →
      Fault front (.text s, width) (.duplicateRun s)
  | width {s : String} {width : Value} : IsRunName (.text s) → .text s ∉ front.map Prod.fst →
      ¬ IsRunWidth width → Fault front (.text s, width) (.runWidth s width)

section Pairs

variable {front rest pairs : List (Value × Value)} {pair : Value × Value} {e : Error}

theorem isRunName_text {s : String} : IsRunName (.text s) ↔ isBareMark s = false := by
  rw [IsRunName, isBareMark, List.all_eq_false]
  simp

theorem Fault.not_areRuns (h : Fault front pair e) : ¬ AreRuns (front ++ pair :: rest) := by
  intro hruns
  have hmem : pair ∈ front ++ pair :: rest := List.mem_append_right _ List.mem_cons_self
  cases h with
  | name hname => exact hname (hruns.names _ hmem)
  | repeated _ hrepeated =>
    have hnodup := hruns.nodup
    rw [List.map_append, List.nodup_append] at hnodup
    exact hnodup.2.2 _ hrepeated _ List.mem_cons_self rfl
  | width _ _ hwidth => exact hwidth (hruns.widths _ hmem)

theorem Fault.causeKind_eq (h : Fault front pair e) : e.causeKind = .definition := by
  cases h <;> rfl

theorem areRuns_of_entries {entries : List (String × Int)}
    (hname : ∀ entry ∈ entries, isBareMark entry.1 = false) (hnodup : (entries.map Prod.fst).Nodup)
    (hwidth : ∀ entry ∈ entries, 0 < entry.2) :
    AreRuns (entries.map fun entry ↦ (.text entry.1, .int entry.2)) := by
  refine ⟨?_, ?_, ?_⟩
  · rw [List.forall_mem_map]
    exact fun entry hentry ↦ isRunName_text.2 (hname entry hentry)
  · rw [List.map_map]
    exact List.pairwise_map.2
      ((List.pairwise_map.1 hnodup).imp fun hne he ↦ hne (Value.text.inj he))
  · rw [List.forall_mem_map]
    exact fun entry hentry ↦ ⟨entry.2, rfl, hwidth entry hentry⟩

theorem areRuns_valuePairs {l : Layout} (h : l.IsNamed) : AreRuns l.valuePairs := by
  refine areRuns_of_entries ?_ l.pairs_nodup ?_
  · rw [pairs, List.forall_mem_map]
    exact h
  · rw [pairs, List.forall_mem_map]
    exact fun f _ ↦ Int.natCast_pos.2 f.pos

theorem mem_map_fst_valuePairs {l : Layout} {s : String} :
    .text s ∈ l.valuePairs.map Prod.fst ↔ s ∈ l.names := by
  simp [valuePairs_eq, names]

theorem push_cases (l : Layout) (pair : Value × Value) :
    (∃ l', l.push pair.1 pair.2 = .ok l' ∧ (l.IsNamed → l'.IsNamed) ∧
      l'.valuePairs = l.valuePairs ++ [pair]) ∨
    ∃ e, l.push pair.1 pair.2 = .error e ∧ Fault l.valuePairs pair e := by
  obtain ⟨name, width⟩ := pair
  simp only [push]
  split
  · rename_i s
    split
    · rename_i hmark
      exact .inr ⟨_, rfl, .name (by simp [isRunName_text, hmark])⟩
    rename_i hmark
    have hname := isRunName_text.2 (Bool.eq_false_iff.2 hmark)
    split
    · rename_i hs
      exact .inr ⟨_, rfl, .repeated hname (mem_map_fst_valuePairs.2 hs)⟩
    rename_i hs
    split
    · rename_i n
      split
      · rename_i hn
        refine .inl ⟨_, rfl, ?_, ?_⟩
        · intro hl f hf
          rcases List.mem_append.1 hf with hf | hf
          · exact hl f hf
          · rw [List.mem_singleton.1 hf]
            exact Bool.eq_false_iff.2 hmark
        · simp [valuePairs_eq, Int.max_eq_left (Int.le_of_lt hn)]
      · rename_i hn
        refine .inr ⟨_, rfl, .width hname (mt mem_map_fst_valuePairs.1 hs) ?_⟩
        rintro ⟨m, hm, hpos⟩
        cases hm
        exact hn hpos
    · rename_i hwidth
      refine .inr ⟨_, rfl, .width hname (mt mem_map_fst_valuePairs.1 hs) ?_⟩
      rintro ⟨n, rfl, -⟩
      exact hwidth n rfl
  · rename_i hname
    refine .inr ⟨_, rfl, .name ?_⟩
    rintro ⟨s, rfl, -⟩
    exact hname s rfl

/-- Adding pairs one by one adds them all, or it stops at the first that has a fault. -/
theorem foldlM_push_cases (pairs : List (Value × Value)) {l : Layout} (hl : l.IsNamed) :
    (∃ l' : Layout, pairs.foldlM (fun l pair ↦ l.push pair.1 pair.2) l = .ok l' ∧ l'.IsNamed ∧
      l'.valuePairs = l.valuePairs ++ pairs) ∨
    ∃ front pair rest e, pairs = front ++ pair :: rest ∧
      pairs.foldlM (fun l pair ↦ l.push pair.1 pair.2) l = .error e ∧
      AreRuns (l.valuePairs ++ front) ∧ Fault (l.valuePairs ++ front) pair e := by
  induction pairs generalizing l with
  | nil => exact .inl ⟨l, rfl, hl, (List.append_nil _).symm⟩
  | cons pair rest ih =>
    rw [List.foldlM_cons]
    rcases l.push_cases pair with ⟨next, hnext, hnamed, hpairs⟩ | ⟨e, he, hfault⟩
    · have hsplit : ∀ more, next.valuePairs ++ more = l.valuePairs ++ pair :: more := by
        simp [hpairs]
      rw [hnext, ok_bind]
      rcases ih (hnamed hl) with ⟨l', hl', hnamed', h⟩ | ⟨front, p, rest, e, rfl, he, h⟩
      · exact .inl ⟨l', hl', hnamed', h.trans (hsplit _)⟩
      · exact .inr ⟨pair :: front, p, rest, e, rfl, he, hsplit front ▸ h⟩
    · rw [he]
      refine .inr ⟨[], pair, rest, e, rfl, rfl, ?_, ?_⟩
      · rw [List.append_nil]
        exact areRuns_valuePairs hl
      · rwa [List.append_nil]

theorem ofPairs_cases (pairs : List (Value × Value)) :
    (∃ l, ofPairs pairs = .ok l ∧ l.IsNamed ∧ l.valuePairs = pairs) ∨
    ∃ front pair rest e, pairs = front ++ pair :: rest ∧ ofPairs pairs = .error e ∧
      AreRuns front ∧ Fault front pair e :=
  foldlM_push_cases pairs (l := empty) nofun

theorem ofPairs_eq_ok_iff {l : Layout} :
    ofPairs pairs = .ok l ↔ l.IsNamed ∧ l.valuePairs = pairs := by
  rcases ofPairs_cases pairs with ⟨l', hl', hnamed, rfl⟩ | ⟨_, _, _, e, rfl, he, -, hfault⟩
  · rw [hl', Except.ok.injEq]
    constructor
    · rintro rfl
      exact ⟨hnamed, rfl⟩
    · rintro ⟨-, h⟩
      exact (valuePairs_injective h).symm
  · rw [he]
    refine iff_of_false nofun ?_
    rintro ⟨hnamed, h⟩
    exact hfault.not_areRuns (h ▸ areRuns_valuePairs hnamed)

theorem exists_ofPairs_iff : (∃ l, ofPairs pairs = .ok l) ↔ AreRuns pairs := by
  constructor
  · rintro ⟨l, hl⟩
    obtain ⟨hnamed, rfl⟩ := ofPairs_eq_ok_iff.1 hl
    exact areRuns_valuePairs hnamed
  · intro hruns
    rcases ofPairs_cases pairs with ⟨l, hl, -⟩ | ⟨_, _, _, _, rfl, -, -, hfault⟩
    · exact ⟨l, hl⟩
    · exact absurd hruns hfault.not_areRuns

end Pairs

/-- Whether a value gives these pairs, as a layout, one after the other. -/
def ListsPairs (v : Value) (pairs : List (Value × Value)) : Prop :=
  ∃ items, itemsOf v = .ok items ∧ items.Forall₂ (fun item pair ↦ pairOf item = .ok pair) pairs

section Values

variable {v : Value} {pairs : List (Value × Value)}

theorem forall₂_pairOf (pairs : List (Value × Value)) :
    (pairs.map fun pair ↦ Value.tuple [pair.1, pair.2]).Forall₂
      (fun item pair ↦ pairOf item = .ok pair) pairs := by
  rw [List.forall₂_map_left_iff, List.forall₂_same]
  exact fun pair _ ↦ rfl

theorem listsPairs_dict (entries : List (String × Value)) :
    ListsPairs (.dict entries) (entries.map fun entry ↦ (.text entry.1, entry.2)) := by
  refine ⟨entries.map fun entry ↦ .tuple [.text entry.1, entry.2], ?_, ?_⟩
  · cases entries <;> rfl
  · simpa using forall₂_pairOf (entries.map fun entry ↦ (Value.text entry.1, entry.2))

theorem listsPairs_options (l : Layout) : ListsPairs l.options l.valuePairs := by
  simpa [options, valuePairs, Function.comp_def] using
    listsPairs_dict (l.pairs.map fun entry ↦ (entry.1, .int entry.2))

theorem ofItems_eq_ofPairs {items : List Value}
    (h : items.Forall₂ (fun item pair ↦ pairOf item = .ok pair) pairs) :
    ofItems items = ofPairs pairs := by
  rw [ofItems, ofPairs]
  generalize empty = l
  induction h generalizing l with
  | nil => rfl
  | cons hpair _ ih => simp only [List.foldlM_cons, hpair, ok_bind, ih]

theorem build_of_listsPairs (h : ListsPairs v pairs) (width : Int) (container : String) :
    build v width container = ofPairs pairs >>= fun l ↦ l.fit width container := by
  obtain ⟨items, hitems, hpairs⟩ := h
  rw [build, hitems, ok_bind, ofItems_eq_ofPairs hpairs]

theorem fit_of_le {l : Layout} {width : Int} (h : (l.width : Int) ≤ width) (container : String) :
    l.fit width container = .ok ⟨l, h⟩ :=
  dif_pos h

theorem build_options {l : Layout} {width : Nat} (h : l.IsNamed) (hw : l.width ≤ width)
    (container : String) : build l.options width container = .ok ⟨l, Int.ofNat_le.2 hw⟩ := by
  rw [build_of_listsPairs l.listsPairs_options, ofPairs_eq_ok_iff.2 ⟨h, rfl⟩, ok_bind, fit_of_le]

theorem build_none (width : Nat) (container : String) : build .none width container =
    .ok ⟨empty, Int.ofNat_le.2 (show empty.width ≤ width from Nat.zero_le width)⟩ := by
  have hnone : ListsPairs .none [] := ⟨[], rfl, .nil⟩
  have hempty : ofPairs [] = .ok empty := rfl
  rw [build_of_listsPairs hnone, hempty, ok_bind, fit_of_le]

end Values

end Layout

namespace Member

theorem options_of_none {m : Member} (h : m.runs = none) : m.options = .none := by
  simp [options, options?, h]

theorem options_of_some {m : Member} {l : Layout} (h : m.runs = some l.pairs) :
    m.options = l.options := by
  simp [options, options?, h, Value.entriesOf_of_nodup l.pairs_nodup, Layout.options]

end Member

end RecordCodec
