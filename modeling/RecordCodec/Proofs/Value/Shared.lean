import RecordCodec.Proofs.Bitfield.Cells
import RecordCodec.Proofs.Expansion.Stored
import RecordCodec.Proofs.Value.Projection

namespace RecordCodec

namespace Store

variable {s s' : Store} {r : Ref} {v w : Value}

theorem Holds.lt_size (h : s.Holds r v) : r < s.cells.size := by
  cases h with
  | _ hcell => exact (Array.getElem?_eq_some_iff.1 hcell).1

mutual

theorem Holds.unique : (v : Value) → {r : Ref} → {w : Value} → s.Holds r v → s.Holds r w → v = w
  | .list items, _, _, h, h' => by
    cases h with
    | atom _ hatom => cases hatom
    | list hcell hitems =>
      cases h' with
      | list hcell' hitems' =>
        cases hcell.symm.trans hcell'
        rw [Holds.uniqueAll items hitems hitems']
      | _ hcell' => cases hcell.symm.trans hcell'
  | .tuple items, _, _, h, h' => by
    cases h with
    | atom _ hatom => cases hatom
    | tuple hcell hitems =>
      cases h' with
      | tuple hcell' hitems' =>
        cases hcell.symm.trans hcell'
        rw [Holds.uniqueAll items hitems hitems']
      | _ hcell' => cases hcell.symm.trans hcell'
  | .dict entries, _, _, h, h' => by
    cases h with
    | atom _ hatom => cases hatom
    | dict hcell hkeys hentries =>
      cases h' with
      | dict hcell' hkeys' hentries' =>
        cases hcell.symm.trans hcell'
        rw [Holds.uniqueEntries entries (hkeys.symm.trans hkeys') hentries hentries']
      | _ hcell' => cases hcell.symm.trans hcell'
  | .bits b, _, _, h, h' => by
    cases h with
    | atom hcell _ =>
      cases h' with
      | _ hcell' => cases hcell.symm.trans hcell' <;> rfl
    | bits hcell =>
      cases h' with
      | _ hcell' => cases hcell.symm.trans hcell' <;> rfl
  | .none, _, _, .atom hcell _, h' | .bool _, _, _, .atom hcell _, h'
  | .int _, _, _, .atom hcell _, h' | .float _, _, _, .atom hcell _, h'
  | .text _, _, _, .atom hcell _, h' | .bytes _, _, _, .atom hcell _, h' => by
    cases h' with
    | _ hcell' => cases hcell.symm.trans hcell' <;> rfl

theorem Holds.uniqueAll : (items : List Value) → {refs : List Ref} → {items' : List Value} →
    refs.Forall₂ s.Holds items → refs.Forall₂ s.Holds items' → items = items'
  | [], _, _, .nil, .nil => rfl
  | v :: rest, _, _, .cons hv hrest, .cons hv' hrest' => by
    rw [Holds.unique v hv hv', Holds.uniqueAll rest hrest hrest']

theorem Holds.uniqueEntries : (entries : List (String × Value)) → {refs : List Ref} →
    {entries' : List (String × Value)} → entries.map Prod.fst = entries'.map Prod.fst →
    refs.Forall₂ s.Holds (entries.map Prod.snd) → refs.Forall₂ s.Holds (entries'.map Prod.snd) →
    entries = entries'
  | [], _, [], _, _, _ => rfl
  | [], _, _ :: _, hkeys, _, _ => by cases hkeys
  | _ :: _, _, [], hkeys, _, _ => by cases hkeys
  | (key, v) :: rest, _, (key', v') :: rest', hkeys, .cons hv hrest, .cons hv' hrest' => by
    obtain ⟨hkey, htail⟩ := List.cons.inj hkeys
    obtain rfl : key = key' := hkey
    rw [Holds.unique v hv hv', Holds.uniqueEntries rest htail hrest hrest']

end

/-- Whether parts lie above a value: they are all different, and each is a greater value. -/
structure Above (s : Store) (above : List Ref) (v : Value) : Prop where
  nodup : above.Nodup
  greater : ∀ r ∈ above, ∃ w, s.Holds r w ∧ sizeOf v < sizeOf w

theorem above_nil (s : Store) (v : Value) : s.Above [] v :=
  ⟨List.nodup_nil, List.forall_mem_nil _⟩

namespace Above

variable {above : List Ref}

theorem nodup_cons (h : s.Above above v) (hr : s.Holds r v) : (r :: above).Nodup := by
  refine List.nodup_cons.2 ⟨fun hmem ↦ ?_, h.nodup⟩
  obtain ⟨w, hw, hlt⟩ := h.greater r hmem
  rw [hr.unique v hw] at hlt
  exact Nat.lt_irrefl _ hlt

theorem cons (h : s.Above above v) (hr : s.Holds r v) (hlt : sizeOf w < sizeOf v) :
    s.Above (r :: above) w := by
  refine ⟨h.nodup_cons hr, List.forall_mem_cons.2 ⟨⟨v, hr, hlt⟩, fun r' hr' ↦ ?_⟩⟩
  obtain ⟨u, hu, hgreater⟩ := h.greater r' hr'
  exact ⟨u, hu, hlt.trans hgreater⟩

theorem length_lt (h : s.Above above v) (hr : s.Holds r v) : above.length < s.cells.size := by
  have hsub : r :: above ⊆ List.range s.cells.size := by
    refine List.cons_subset.2 ⟨List.mem_range.2 hr.lt_size, fun r' hr' ↦ ?_⟩
    obtain ⟨u, hu, -⟩ := h.greater r' hr'
    exact List.mem_range.2 hu.lt_size
  have hle := (h.nodup_cons hr).subperm hsub |>.length_le
  rwa [List.length_range] at hle

end Above

/-- Whether no bitfield is among the values that have no parts. -/
def KeepsBitfields (s : Store) : Prop :=
  ∀ r b, s.get? r ≠ some (.atom (.bits b))

theorem keepsBitfields_empty : empty.KeepsBitfields :=
  fun _ _ h ↦ by cases h

namespace KeepsBitfields

theorem insert (hs : s.KeepsBitfields) {c : Cell} (hc : ∀ b, c ≠ .atom (.bits b)) :
    (Store.insert c s).2.KeepsBitfields := by
  intro r b hr
  rw [Store.insert, get?, Array.getElem?_push] at hr
  split at hr
  · exact hc b (Option.some.inj hr)
  · exact hs r b hr

mutual

theorem insertValue : (v : Value) → {s : Store} → s.KeepsBitfields →
    (Store.insertValue v s).2.KeepsBitfields
  | .list items, _, hs | .tuple items, _, hs => (insertAll items hs).insert fun _ h ↦ by cases h
  | .dict entries, _, hs => (insertEntries entries hs).insert fun _ h ↦ by cases h
  | .none, _, hs | .bool _, _, hs | .int _, _, hs | .float _, _, hs | .text _, _, hs
  | .bytes _, _, hs | .bytearray _, _, hs | .bits _, _, hs | .again _, _, hs =>
    hs.insert fun _ h ↦ by cases h

theorem insertAll : (items : List Value) → {s : Store} → s.KeepsBitfields →
    (Store.insertAll items s).2.KeepsBitfields
  | [], _, hs => hs
  | v :: rest, _, hs => insertAll rest (insertValue v hs)

theorem insertEntries : (entries : List (String × Value)) → {s : Store} → s.KeepsBitfields →
    (Store.insertEntries entries s).2.KeepsBitfields
  | [], _, hs => hs
  | (_, v) :: rest, _, hs => insertEntries rest (insertValue v hs)

end

end KeepsBitfields

theorem Extends.refl (s : Store) : s.Extends s :=
  fun _ _ hr ↦ hr

section Adds

variable {α β γ δ ε : Type} {s₀ : Store} {R : Store → β → γ → Prop} {T : Store → δ → ε → Prop}

/-- Whether an action ends on every store that has the parts of `s₀`, does nothing but add parts,
and gives what is in the relation `R` to `c` there. -/
def Adds (s₀ : Store) (R : Store → β → γ → Prop) (action : StateT Store Option β) (c : γ) : Prop :=
  ∀ s, s₀.Extends s → s.KeepsBitfields → ∃ b s', action.run s = some (b, s') ∧ s.Extends s' ∧
    s'.KeepsBitfields ∧ R s' b c

namespace Adds

theorem pure {b : β} {c : γ} (h : ∀ s, s₀.Extends s → R s b c) : s₀.Adds R (Pure.pure b) c :=
  fun s hext hs ↦ ⟨b, s, rfl, .refl s, hs, h s hext⟩

theorem bind {action : StateT Store Option β} {f : β → StateT Store Option δ} {c : γ} {d : ε}
    (h : s₀.Adds R action c)
    (hf : ∀ b s, s₀.Extends s → R s b c → s.Adds T (f b) d) : s₀.Adds T (action >>= f) d := by
  intro s hext hs
  obtain ⟨b, s₁, hrun, hext₁, hs₁, hb⟩ := h s hext hs
  obtain ⟨x, s₂, hrun', hext₂, hs₂, hx⟩ := hf b s₁ (hext.trans hext₁) hb s₁ (.refl s₁) hs₁
  refine ⟨x, s₂, ?_, hext₁.trans hext₂, hs₂, hx⟩
  rw [StateT.run_bind, hrun]
  exact hrun'

theorem mapM (hR : ∀ {s s' b c}, s.Extends s' → R s b c → R s' b c)
    {f : α → StateT Store Option β} {xs : List α} {cs : List γ}
    (h : xs.Forall₂ (fun x c ↦ s₀.Adds R (f x) c) cs) :
    s₀.Adds (fun s ↦ List.Forall₂ (R s)) (xs.mapM f) cs := by
  induction h with
  | nil => exact .pure fun _ _ ↦ .nil
  | cons hx _ ih =>
    rw [List.mapM_cons]
    refine hx.bind fun b s hext hb ↦ ?_
    refine .bind (fun s' hext' ↦ ih s' (hext.trans hext')) fun bs s' hext' hbs ↦ ?_
    exact .pure fun s'' hext'' ↦
      .cons (hR (hext'.trans hext'') hb) (hbs.imp fun _ _ ↦ hR hext'')

theorem of_run_eq {action action' : StateT Store Option β} {c : γ} (h : s₀.Adds R action c)
    (hrun : ∀ s, s₀.Extends s → action'.run s = action.run s) : s₀.Adds R action' c := by
  intro s hext hs
  rw [hrun s hext]
  exact h s hext hs

theorem insert {c : Cell} {v : Value} (hc : ∀ b, c ≠ .atom (.bits b))
    (hv : ∀ {s r}, s₀.Extends s → s.get? r = some c → s.Holds r v) :
    s₀.Adds Holds (projectWithin.always (Store.insert c)) v :=
  fun s hext hs ↦ ⟨_, _, rfl, extends_insert s c, hs.insert hc,
    hv (hext.trans (extends_insert s c)) (get?_insert s c)⟩

theorem insertValue {v : Value} (hv : v.IsFixed) :
    s₀.Adds Holds (projectWithin.always (Store.insertValue v)) v :=
  fun s _ hs ↦ ⟨_, _, rfl, (insertValue_holds v hv s).1, hs.insertValue v,
    (insertValue_holds v hv s).2⟩

end Adds

end Adds

def HoldsEntry (s : Store) (ref : String × Ref) (e : String × Value) : Prop :=
  ref.1 = e.1 ∧ s.Holds ref.2 e.2

theorem Extends.holdsEntry (h : s.Extends s') {ref : String × Ref} {e : String × Value}
    (he : s.HoldsEntry ref e) : s'.HoldsEntry ref e :=
  ⟨he.1, Holds.extend h e.2 he.2⟩

theorem forall₂_holdsEntry_iff {refs : List (String × Ref)} {entries : List (String × Value)} :
    refs.Forall₂ s.HoldsEntry entries ↔ refs.map Prod.fst = entries.map Prod.fst ∧
      (refs.map Prod.snd).Forall₂ s.Holds (entries.map Prod.snd) := by
  induction refs generalizing entries with
  | nil => cases entries <;> simp
  | cons ref refs ih =>
    cases entries with
    | nil => simp
    | cons e entries =>
      simp only [List.forall₂_cons, List.map_cons, List.cons.injEq, ih, HoldsEntry]
      tauto

theorem areEntriesFixed {entries : List (String × Value)} (h : ∀ e ∈ entries, e.2.IsFixed) :
    Value.AreEntriesFixed entries := by
  induction entries with
  | nil => trivial
  | cons e rest ih =>
    obtain ⟨he, hrest⟩ := List.forall_mem_cons.1 h
    exact ⟨he, ih hrest⟩

theorem isFixed_project (b : Bitfield) : (Value.dict b.project).IsFixed := by
  refine areEntriesFixed fun e he ↦ ?_
  obtain ⟨p, -, rfl⟩ := List.mem_map.1 he
  rw [Bitfield.projectCell]
  split <;> trivial

theorem sizeOf_lt_list {items : List Value} (h : v ∈ items) :
    sizeOf v < sizeOf (Value.list items) := by
  have hlt := List.sizeOf_lt_of_mem h
  rw [Value.list.sizeOf_spec]
  omega

theorem sizeOf_lt_dict {entries : List (String × Value)} {e : String × Value} (h : e ∈ entries) :
    sizeOf e.2 < sizeOf (Value.dict entries) := by
  have hlt := List.sizeOf_lt_of_mem h
  obtain ⟨name, v⟩ := e
  rw [Prod.mk.sizeOf_spec] at hlt
  rw [Value.dict.sizeOf_spec]
  dsimp only
  omega

theorem forall₂_mem {α β : Type} {R : α → β → Prop} {xs : List α} {ys : List β}
    (h : xs.Forall₂ R ys) : xs.Forall₂ (fun x y ↦ y ∈ ys ∧ R x y) ys :=
  .flip ((List.forall₂_and_left (p := (· ∈ ys)) ys xs).2 ⟨fun _ hy ↦ hy, h.flip⟩)

section Parts

variable {f : Ref → StateT Store Option Ref}

theorem adds_projectAll {refs : List Ref} {items : List Value} (hitems : refs.Forall₂ s.Holds items)
    (hf : ∀ {r w}, w ∈ items → s.Holds r w → s.Adds Holds (f r) w.project) :
    s.Adds (fun s' ↦ List.Forall₂ s'.Holds) (refs.mapM f) (Value.projectAll items) := by
  rw [Value.projectAll_eq_map]
  refine Adds.mapM (R := Holds) (fun hext hw ↦ Holds.extend hext _ hw) ?_
  rw [List.forall₂_map_right_iff]
  exact (forall₂_mem hitems).imp fun _ _ hw ↦ hf hw.1 hw.2

theorem adds_projectEntries {refs : List (String × Ref)} {entries : List (String × Value)}
    (hentries : refs.Forall₂ s.HoldsEntry entries)
    (hf : ∀ {r e}, e ∈ entries → s.Holds r e.2 → s.Adds Holds (f r) e.2.project) :
    s.Adds (fun s' ↦ List.Forall₂ s'.HoldsEntry)
      ((refs.filter fun ref ↦ !Value.isReservedName ref.1).mapM fun ref ↦ do
        return (ref.1, ← f ref.2))
      (Value.projectEntries entries) := by
  rw [Value.projectEntries_eq]
  refine Adds.mapM (R := HoldsEntry) (fun hext he ↦ hext.holdsEntry he) ?_
  rw [List.forall₂_map_right_iff]
  have hkept := List.rel_filter (p := fun ref : String × Ref ↦ !Value.isReservedName ref.1)
    (q := fun e : String × Value ↦ !Value.isReservedName e.1)
    (fun ref e he ↦ by simp only [he.2.1]) (forall₂_mem hentries)
  refine hkept.imp fun ref e he ↦ ?_
  obtain ⟨hmem, hname, hw⟩ := he
  exact (hf hmem hw).bind fun r' s' _ hr' ↦ .pure fun s'' hext ↦
    ⟨hname, Holds.extend hext _ hr'⟩

def projectCell (f : Ref → StateT Store Option Ref) (r : Ref) : Cell → StateT Store Option Ref
  | .bits b => projectWithin.always (insertValue (.dict b.project))
  | .list refs => do
    let refs ← refs.mapM f
    projectWithin.always (insert (.list refs))
  | .dict refs => do
    let kept ← (refs.filter fun ref ↦ !Value.isReservedName ref.1).mapM fun ref ↦ do
      return (ref.1, ← f ref.2)
    projectWithin.always (insert (.dict kept))
  | _ => return r

theorem run_projectWithin {cell : Cell} (hcell : s.get? r = some cell) (n : Nat) :
    (projectWithin (n + 1) r).run s = (projectCell (projectWithin n) r cell).run s := by
  rw [projectWithin]
  cases cell <;> simp [hcell, projectCell]

theorem exists_adds_projectCell (hs : s.KeepsBitfields) (hr : s.Holds r v)
    (hf : ∀ {r w}, s.Holds r w → sizeOf w < sizeOf v → s.Adds Holds (f r) w.project) :
    ∃ cell, s.get? r = some cell ∧ s.Adds Holds (projectCell f r cell) v.project := by
  have hsame : s.Adds Holds (pure r) v := .pure fun s' hext ↦ Holds.extend hext v hr
  cases hr with
  | @atom _ v hcell hatom =>
    have hkeeps : v.project = v := by
      cases v with
      | bits b => exact absurd hcell (hs r b)
      | list | dict => cases hatom
      | _ => rfl
    exact ⟨_, hcell, hkeeps.symm ▸ hsame⟩
  | @bits _ b hcell => exact ⟨_, hcell, .insertValue (isFixed_project b)⟩
  | tuple hcell => exact ⟨_, hcell, hsame⟩
  | list hcell hitems =>
    have hparts := adds_projectAll hitems fun hmem hw ↦ hf hw (sizeOf_lt_list hmem)
    refine ⟨_, hcell, hparts.bind fun refs s' _ hrefs ↦ ?_⟩
    exact .insert (fun _ h ↦ by cases h) fun hext hcell' ↦
      .list hcell' (Holds.extendAll hext _ hrefs)
  | dict hcell hkeys hentries =>
    have hparts := adds_projectEntries (forall₂_holdsEntry_iff.2 ⟨hkeys, hentries⟩)
      fun hmem hw ↦ hf hw (sizeOf_lt_dict hmem)
    refine ⟨_, hcell, hparts.bind fun refs s' _ hrefs ↦ .insert (fun _ h ↦ by cases h) ?_⟩
    intro s'' r' hext hcell'
    obtain ⟨hkeys', hentries'⟩ :=
      forall₂_holdsEntry_iff.1 (hrefs.imp fun _ _ he ↦ hext.holdsEntry he)
    exact .dict hcell' hkeys' hentries'

end Parts

/-- At each level one more part lies above, so there are no more levels than parts. -/
theorem adds_projectWithin (hs : s.KeepsBitfields) (n : Nat) {above : List Ref}
    (habove : s.Above above v) (hr : s.Holds r v) (hn : s.cells.size ≤ above.length + n) :
    s.Adds Holds (projectWithin n r) v.project := by
  induction n generalizing above r v with
  | zero => exact absurd (habove.length_lt hr) (by omega)
  | succ n ih =>
    obtain ⟨cell, hcell, hadds⟩ := exists_adds_projectCell hs hr fun hw hlt ↦
      ih (habove.cons hr hlt) hw (by rw [List.length_cons]; omega)
    exact hadds.of_run_eq fun s' hext ↦ run_projectWithin (hext r cell hcell) n

/-- Representing a part ends and gives the representation of its value. -/
theorem exists_project? (hs : s.KeepsBitfields) (hr : s.Holds r v) : ∃ r' s',
    s.project? r = some (r', s') ∧ s.Extends s' ∧ s'.KeepsBitfields ∧ s'.Holds r' v.project :=
  adds_projectWithin hs (s.cells.size + 1) (s.above_nil v) hr (by omega) s (.refl s) hs

end Store

def splitBits : Bitfield :=
  ⟨.bits16, Bitfield.splitLayout, 0xA50F, by decide, by decide⟩

def markedValue : Value :=
  .dict [("#skip", .int 1), ("rows", .list [.bits splitBits, .tuple [.bits splitBits]]),
    ("#", .none), ("name", .text "x")]

end RecordCodec
