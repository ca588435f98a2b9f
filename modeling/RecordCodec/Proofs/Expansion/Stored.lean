import RecordCodec.Proofs.Expansion.Places
import RecordCodec.Proofs.Leaf.RoundTrip

namespace RecordCodec

/-- Whether a part of a store is the given value, none of whose byte strings may change. -/
inductive Store.Holds (store : Store) : Ref → Value → Prop
  | atom {r : Ref} {v : Value} : store.get? r = some (.atom v) → v.IsAtom → Holds store r v
  | bits {r : Ref} {b : Bitfield} : store.get? r = some (.bits b) → Holds store r (.bits b)
  | list {r : Ref} {refs : List Ref} {items : List Value} : store.get? r = some (.list refs) →
      List.Forall₂ (Holds store) refs items → Holds store r (.list items)
  | tuple {r : Ref} {refs : List Ref} {items : List Value} : store.get? r = some (.tuple refs) →
      List.Forall₂ (Holds store) refs items → Holds store r (.tuple items)
  | dict {r : Ref} {refs : List (String × Ref)} {entries : List (String × Value)} :
      store.get? r = some (.dict refs) → refs.map Prod.fst = entries.map Prod.fst →
      List.Forall₂ (Holds store) (refs.map Prod.snd) (entries.map Prod.snd) →
      Holds store r (.dict entries)

/-- Whether a source is the given value, by itself or in a store. -/
inductive Source.Shows : Source → Value → Prop
  | value (v : Value) : Shows (.value v) v
  | part {store : Store} {target : Option (Ref × Surroundings)} {r : Ref} {v : Value} :
      store.Holds r v → Shows (.part store target r) v

mutual

/-- Whether no byte string in a value may change, and the value is nowhere cut off. -/
def Value.IsFixed : Value → Prop
  | bytearray _ | again _ => False
  | list items | tuple items => AreFixed items
  | dict entries => AreEntriesFixed entries
  | _ => True

def Value.AreFixed : List Value → Prop
  | [] => True
  | v :: rest => IsFixed v ∧ AreFixed rest

def Value.AreEntriesFixed : List (String × Value) → Prop
  | [] => True
  | (_, v) :: rest => IsFixed v ∧ AreEntriesFixed rest

end

namespace Store

variable {s s' s'' : Store}

def Extends (s s' : Store) : Prop :=
  ∀ r c, s.get? r = some c → s'.get? r = some c

theorem Extends.trans (h : s.Extends s') (h' : s'.Extends s'') : s.Extends s'' :=
  fun r c hr ↦ h' r c (h r c hr)

theorem get?_insert (s : Store) (c : Cell) : (insert c s).2.get? (insert c s).1 = some c :=
  Array.getElem?_push_size

theorem extends_insert (s : Store) (c : Cell) : s.Extends (insert c s).2 := by
  intro r c' hr
  have hlt := (Array.getElem?_eq_some_iff.1 hr).1
  rw [get?] at hr
  rw [insert, get?, Array.getElem?_push_lt hlt, ← hr, Array.getElem?_eq_getElem hlt]

mutual

theorem Holds.extend (h : s.Extends s') : (v : Value) → {r : Ref} → s.Holds r v → s'.Holds r v
  | .list items, _, hr => by
    cases hr with
    | atom _ hatom => cases hatom
    | list hcell hitems => exact .list (h _ _ hcell) (Holds.extendAll h items hitems)
  | .tuple items, _, hr => by
    cases hr with
    | atom _ hatom => cases hatom
    | tuple hcell hitems => exact .tuple (h _ _ hcell) (Holds.extendAll h items hitems)
  | .dict entries, _, hr => by
    cases hr with
    | atom _ hatom => cases hatom
    | dict hcell hkeys hentries =>
      exact .dict (h _ _ hcell) hkeys (Holds.extendEntries h entries hentries)
  | .bits b, _, hr => by
    cases hr with
    | atom hcell hatom => exact .atom (h _ _ hcell) hatom
    | bits hcell => exact .bits (h _ _ hcell)
  | .none, _, .atom hcell hatom | .bool _, _, .atom hcell hatom | .int _, _, .atom hcell hatom
  | .float _, _, .atom hcell hatom | .text _, _, .atom hcell hatom
  | .bytes _, _, .atom hcell hatom => .atom (h _ _ hcell) hatom

theorem Holds.extendAll (h : s.Extends s') : (items : List Value) → {refs : List Ref} →
    refs.Forall₂ s.Holds items → refs.Forall₂ s'.Holds items
  | [], _, hr => by
    cases hr
    exact .nil
  | v :: rest, _, hr => by
    cases hr with
    | cons hv hrest => exact .cons (Holds.extend h v hv) (Holds.extendAll h rest hrest)

theorem Holds.extendEntries (h : s.Extends s') : (entries : List (String × Value)) →
    {refs : List Ref} → refs.Forall₂ s.Holds (entries.map Prod.snd) →
    refs.Forall₂ s'.Holds (entries.map Prod.snd)
  | [], _, hr => by
    cases hr
    exact .nil
  | (_, v) :: rest, _, hr => by
    cases hr with
    | cons hv hrest => exact .cons (Holds.extend h v hv) (Holds.extendEntries h rest hrest)

end

theorem insert_holds_atom {v : Value} (hv : v.IsAtom) (s : Store) :
    s.Extends (insert (.atom v) s).2 ∧
      (insert (.atom v) s).2.Holds (insert (.atom v) s).1 v :=
  ⟨extends_insert s _, .atom (get?_insert s _) hv⟩

mutual

theorem insertValue_holds : (v : Value) → v.IsFixed → (s : Store) →
    s.Extends (insertValue v s).2 ∧ (insertValue v s).2.Holds (insertValue v s).1 v
  | .list items, hv, s => by
    obtain ⟨hextends, hitems⟩ := insertAll_holds items hv s
    have hinsert := extends_insert (insertAll items s).2 (.list (insertAll items s).1)
    exact ⟨hextends.trans hinsert,
      .list (get?_insert _ _) (Holds.extendAll hinsert items hitems)⟩
  | .tuple items, hv, s => by
    obtain ⟨hextends, hitems⟩ := insertAll_holds items hv s
    have hinsert := extends_insert (insertAll items s).2 (.tuple (insertAll items s).1)
    exact ⟨hextends.trans hinsert,
      .tuple (get?_insert _ _) (Holds.extendAll hinsert items hitems)⟩
  | .dict entries, hv, s => by
    obtain ⟨hextends, hkeys, hentries⟩ := insertEntries_holds entries hv s
    have hinsert := extends_insert (insertEntries entries s).2 (.dict (insertEntries entries s).1)
    exact ⟨hextends.trans hinsert,
      .dict (get?_insert _ _) hkeys (Holds.extendEntries hinsert entries hentries)⟩
  | .bits b, _, s => ⟨extends_insert s _, .bits (get?_insert s _)⟩
  | .none, _, s | .bool _, _, s | .int _, _, s | .float _, _, s | .text _, _, s
  | .bytes _, _, s => insert_holds_atom (by trivial) s

theorem insertAll_holds : (items : List Value) → Value.AreFixed items → (s : Store) →
    s.Extends (insertAll items s).2 ∧
      (insertAll items s).1.Forall₂ (insertAll items s).2.Holds items
  | [], _, s => ⟨fun _ _ h ↦ h, .nil⟩
  | v :: rest, h, s => by
    obtain ⟨hextends, hv⟩ := insertValue_holds v h.1 s
    obtain ⟨hextends', hrest⟩ := insertAll_holds rest h.2 (insertValue v s).2
    exact ⟨hextends.trans hextends', .cons (Holds.extend hextends' v hv) hrest⟩

theorem insertEntries_holds : (entries : List (String × Value)) →
    Value.AreEntriesFixed entries → (s : Store) →
    s.Extends (insertEntries entries s).2 ∧
      (insertEntries entries s).1.map Prod.fst = entries.map Prod.fst ∧
      ((insertEntries entries s).1.map Prod.snd).Forall₂ (insertEntries entries s).2.Holds
        (entries.map Prod.snd)
  | [], _, s => ⟨fun _ _ h ↦ h, rfl, .nil⟩
  | (key, v) :: rest, h, s => by
    obtain ⟨hextends, hv⟩ := insertValue_holds v h.1 s
    obtain ⟨hextends', hkeys, hrest⟩ := insertEntries_holds rest h.2 (insertValue v s).2
    exact ⟨hextends.trans hextends', congrArg (key :: ·) hkeys,
      .cons (Holds.extend hextends' v hv) hrest⟩

end

end Store

section Options

variable {α β γ : Type} {R : α → β → Prop}

theorem lookup_map (f : α → β) (entries : List (String × α)) (name : String) :
    (entries.map fun entry ↦ (entry.1, f entry.2)).lookup name = (entries.lookup name).map f := by
  induction entries with
  | nil => rfl
  | cons entry rest ih =>
    rw [List.map_cons, List.lookup_cons, List.lookup_cons, ih]
    cases name == entry.1 <;> rfl

theorem getElem?_rel {xs : List α} {ys : List β} (h : xs.Forall₂ R ys) (i : Nat) :
    Option.Rel R xs[i]? ys[i]? := by
  induction h generalizing i with
  | nil => exact .none
  | cons hab _ ih =>
    cases i with
    | zero => exact .some hab
    | succ i => exact ih i

theorem lookup_rel {xs : List (String × α)} {ys : List (String × β)}
    (hkeys : xs.map Prod.fst = ys.map Prod.fst)
    (h : (xs.map Prod.snd).Forall₂ R (ys.map Prod.snd)) (name : String) :
    Option.Rel R (xs.lookup name) (ys.lookup name) := by
  induction xs generalizing ys with
  | nil =>
    cases ys with
    | nil => exact .none
    | cons => cases hkeys
  | cons x xs ih =>
    cases ys with
    | nil => cases hkeys
    | cons y ys =>
      obtain ⟨hkey, hkeys⟩ := List.cons.inj hkeys
      cases h with
      | cons hxy h =>
        rw [List.lookup_cons, List.lookup_cons, hkey]
        cases name == y.1 with
        | true => exact .some hxy
        | false => exact ih hkeys h

end Options

namespace Source

variable {data : Bytes} {s t : Source} {v w : Value}

abbrev ShownBy (t t' : Source) : Prop :=
  ∃ w, t' = .value w ∧ t.Shows w

theorem element_rel {xs ys : List Source}
    (h : xs.Forall₂ (fun x y ↦ ShownBy (x.taken data) (y.taken data)) ys) (count i : Nat) :
    Option.Rel ShownBy (if xs.length = count then xs[i]?.map (taken data) else none)
      (if ys.length = count then ys[i]?.map (taken data) else none) := by
  rw [h.length_eq]
  split
  · have hi := getElem?_rel h i
    generalize xs[i]? = x, ys[i]? = y at hi ⊢
    cases hi with
    | none => exact .none
    | some hxy => exact .some hxy
  · exact .none

theorem sequence_rel {store : Store} (target : Option (Ref × Surroundings)) {refs : List Ref}
    {items : List Value} (h : refs.Forall₂ store.Holds items) (hs : s.entries? = none)
    (ht : t.entries? = none) (hrefs : s.items? data = some (refs.map (part store target)))
    (hitems : t.items? data = some (items.map value)) (step : Expansion.Step) :
    Option.Rel ShownBy (s.step? data step) (t.step? data step) := by
  cases step with
  | member name =>
    rw [step?, step?, hs, ht]
    exact .none
  | element count i =>
    rw [step?, step?, hrefs, hitems]
    apply element_rel
    rw [List.forall₂_map_left_iff, List.forall₂_map_right_iff]
    exact h.imp fun _ w hw ↦ ⟨w, rfl, .part hw⟩

theorem mapping_rel {store : Store} (target : Option (Ref × Surroundings)) {r : Ref}
    {refs : List (String × Ref)} {entries : List (String × Value)}
    (hcell : store.get? r = some (.dict refs))
    (hkeys : refs.map Prod.fst = entries.map Prod.fst)
    (h : (refs.map Prod.snd).Forall₂ store.Holds (entries.map Prod.snd)) (step : Expansion.Step) :
    Option.Rel ShownBy ((Source.part store target r).step? data step)
      ((Source.value (.dict entries)).step? data step) := by
  cases step with
  | member name =>
    have hpart : (Source.part store target r).step? data (.member name) =
        (refs.lookup name).map (Source.part store target) := by
      simp only [step?, entries?, hcell, Option.bind_some, lookup_map]
    have hvalue : (Source.value (.dict entries)).step? data (.member name) =
        (entries.lookup name).map Source.value := by
      simp only [step?, entries?, Option.bind_some, lookup_map]
    have hlookup := lookup_rel hkeys h name
    rw [hpart, hvalue]
    generalize refs.lookup name = ref, entries.lookup name = entry at hlookup ⊢
    cases hlookup with
    | none => exact .none
    | some hw => exact .some ⟨_, rfl, .part hw⟩
  | element count i =>
    have hstep : (Source.part store target r).step? data (.element count i) = none := by
      simp only [step?, items?, hcell, Option.bind_none]
    rw [hstep]
    exact .none

theorem step?_value_rel (v : Value) (data : Bytes) (step : Expansion.Step) :
    Option.Rel ShownBy ((Source.value v).step? data step) ((Source.value v).step? data step) := by
  cases h : (Source.value v).step? data step with
  | none => exact .none
  | some t =>
    refine .some ?_
    suffices ∃ w, t = .value w by
      obtain ⟨w, rfl⟩ := this
      exact ⟨w, rfl, .value w⟩
    cases step with
    | member name =>
      obtain ⟨entries, hentries, ht⟩ := Option.bind_eq_some_iff.1 h
      cases v with
      | dict values =>
        cases hentries
        rw [lookup_map] at ht
        obtain ⟨w, -, rfl⟩ := Option.map_eq_some_iff.1 ht
        exact ⟨w, rfl⟩
      | _ => cases hentries
    | element count i =>
      obtain ⟨items, hitems, ht⟩ := Option.bind_eq_some_iff.1 h
      obtain ⟨values, -, rfl⟩ := Option.map_eq_some_iff.1 hitems
      split at ht
      · obtain ⟨u, hu, rfl⟩ := Option.map_eq_some_iff.1 ht
        obtain ⟨w, -, rfl⟩ := List.mem_map.1 (List.mem_of_getElem? hu)
        exact ⟨w, rfl⟩
      · contradiction

/-- A step leads to the same part of a value in a store as of the value by itself. -/
theorem Shows.step?_rel (h : s.Shows v) (data : Bytes) (step : Expansion.Step) :
    Option.Rel ShownBy (s.step? data step) ((Source.value v).step? data step) := by
  cases h with
  | value v => exact step?_value_rel v data step
  | @part store target r v h =>
    cases h with
    | atom hcell hatom =>
      have hstep : (Source.part store target r).step? data step =
          (Source.value v).step? data step := by
        cases step with
        | member name =>
          cases v with
          | dict => cases hatom
          | _ => simp only [step?, entries?, hcell]
        | element count i => simp only [step?, items?, hcell]
      rw [hstep]
      exact step?_value_rel v data step
    | bits hcell =>
      have hstep : (Source.part store target r).step? data step = none := by
        cases step <;> simp only [step?, entries?, items?, hcell, Option.bind_none]
      rw [hstep]
      cases step <;> exact .none
    | list hcell hitems =>
      exact sequence_rel target hitems (by simp only [entries?, hcell]) rfl
        (by simp only [items?, hcell]) rfl step
    | tuple hcell hitems =>
      exact sequence_rel target hitems (by simp only [entries?, hcell]) rfl
        (by simp only [items?, hcell]) rfl step
    | dict hcell hkeys hentries => exact mapping_rel target hcell hkeys hentries step

theorem Shows.part?_rel (h : s.Shows v) (data : Bytes) (path : List Expansion.Step) :
    Option.Rel ShownBy (s.part? data path) ((Source.value v).part? data path) := by
  induction path generalizing s v with
  | nil => exact .some ⟨v, rfl, h⟩
  | cons step path ih =>
    rw [Source.part?, Source.part?]
    refine bind_rel (h.step?_rel data step) fun t t' ht ↦ ?_
    obtain ⟨w, rfl, ht⟩ := ht
    exact ih ht

theorem Shows.exists_part (h : s.Shows v) {path : List Expansion.Step}
    (hpart : (Source.value v).part? data path = some (.value w)) :
    ∃ t, s.part? data path = some t ∧ t.Shows w := by
  have hrel := h.part?_rel data path
  rw [hpart] at hrel
  generalize s.part? data path = t at hrel ⊢
  cases hrel with
  | some ht =>
    obtain ⟨w', hw', hshows⟩ := ht
    cases hw'
    exact ⟨_, rfl, hshows⟩

theorem Shows.part?_eq_none (h : s.Shows v) {path : List Expansion.Step}
    (hpart : (Source.value v).part? data path = none) : s.part? data path = none := by
  have hrel := h.part?_rel data path
  rw [hpart] at hrel
  generalize s.part? data path = t at hrel ⊢
  cases hrel with
  | none => rfl

theorem Shows.now_eq (h : s.Shows v) (hv : v.IsAtom) (data : Bytes) :
    s.now data = v ∧ s.opened data = v := by
  cases h with
  | value v =>
    cases v with
    | dict => cases hv
    | _ => exact ⟨rfl, rfl⟩
  | @part store target r v h =>
    have hcell : store.get? r = some (.atom v) ∨
        ∃ b, v = .bits b ∧ store.get? r = some (.bits b) := by
      cases h with
      | atom hcell => exact .inl hcell
      | bits hcell => exact .inr ⟨_, rfl, hcell⟩
      | list | tuple | dict => cases hv
    have hnow : (Source.part store target r).now data = v := by
      rcases hcell with hcell | ⟨b, rfl, hcell⟩ <;>
        simp [now, Store.valueWith?, Store.valueWithin, hcell]
    have hentries : (Source.part store target r).entries? = none := by
      rcases hcell with hcell | ⟨b, rfl, hcell⟩ <;> simp only [entries?, hcell]
    exact ⟨hnow, by rw [opened, hentries, hnow]⟩

theorem Shows.opened_dict {entries : List (String × Value)} (h : s.Shows (.dict entries))
    (hatoms : ∀ entry ∈ entries, entry.2.IsAtom) (data : Bytes) :
    s.opened data = .dict entries := by
  cases h with
  | value => simp [opened, entries?, Function.comp_def, now]
  | @part store target r _ h =>
    cases h with
    | atom _ hatom => cases hatom
    | @dict _ refs _ hcell hkeys hentries =>
      simp only [opened, entries?, hcell, List.map_map]
      congr 1
      clear hcell
      induction refs generalizing entries with
      | nil => exact (List.map_eq_nil_iff.1 hkeys.symm).symm
      | cons ref refs ih =>
        cases entries with
        | nil => cases hkeys
        | cons entry entries =>
          obtain ⟨hkey, hkeys⟩ := List.cons.inj hkeys
          cases hentries with
          | cons hentry hentries =>
            obtain ⟨hatom, hatoms⟩ := List.forall_mem_cons.1 hatoms
            have hshows : (Source.part store target ref.2).Shows entry.2 := .part hentry
            have hnow := hshows.now_eq hatom data
            rw [List.map_cons, ih hatoms hkeys hentries]
            exact congrArg (· :: entries) (Prod.ext hkey hnow.1)

theorem Shows.leaf_encoding? (h : s.Shows v) (hv : v.IsAtom) (l : Leaf) (order : ByteOrder)
    (options : Value) (data : Bytes) :
    l.encoding? order options data s = l.encoding? order options data (.value v) := by
  obtain ⟨hnow, hopened⟩ := h.now_eq hv data
  obtain ⟨hnow', hopened'⟩ := (Shows.value v).now_eq hv data
  exact Leaf.encoding?_congr (hnow.trans hnow'.symm) (hopened.trans hopened'.symm) l order options

end Source

namespace Expansion.Place

def Encodes (place : Place) (order : ByteOrder) (v : Value) (block : Bytes) : Prop :=
  ∀ data, ∃ w, w.IsAtom ∧ (Source.value v).part? data place.path = some (.value w) ∧
    place.leaf.encoding? order place.options data (.value w) = some block

theorem Encodes.encoding?_eq {place : Place} {order : ByteOrder} {v : Value} {block : Bytes}
    (h : place.Encodes order v block) {s : Source} (hs : s.Shows v) (data : Bytes) :
    place.encoding? order data s = some block := by
  obtain ⟨w, hw, hpart, hblock⟩ := h data
  obtain ⟨t, ht, hshows⟩ := hs.exists_part hpart
  rw [encoding?, ht, Option.bind_some, hshows.leaf_encoding? hw, hblock]

end Expansion.Place

end RecordCodec
