import RecordCodec.Proofs.Leaf.Encoding
import RecordCodec.Proofs.Outcome

namespace RecordCodec

mutual

/-- Values that differ at most in what they hold: their kinds, lengths and keys are the same. -/
inductive Value.Alike : Value → Value → Prop
  | refl (v : Value) : Alike v v
  | bytearray {a b : Bytes} : a.length = b.length → Alike (.bytearray a) (.bytearray b)
  | list {xs ys : List Value} : xs.length = ys.length → Alike (.list xs) (.list ys)
  | tuple {xs ys : List Value} : xs.length = ys.length → Alike (.tuple xs) (.tuple ys)
  | dict {xs ys : List (String × Value)} : AlikeEntries xs ys → Alike (.dict xs) (.dict ys)

inductive Value.AlikeEntries : List (String × Value) → List (String × Value) → Prop
  | nil : AlikeEntries [] []
  | cons {key : String} {v w : Value} {xs ys : List (String × Value)} :
      Alike v w → AlikeEntries xs ys → AlikeEntries ((key, v) :: xs) ((key, w) :: ys)

end

theorem Value.AlikeEntries.of_forall₂ {xs ys : List (String × Value)}
    (h : xs.Forall₂ (fun e e' ↦ e.1 = e'.1 ∧ e.2.Alike e'.2) ys) : AlikeEntries xs ys := by
  induction h with
  | nil => exact .nil
  | @cons e e' _ _ he _ ih =>
    obtain ⟨key, v⟩ := e
    obtain ⟨rfl, hv⟩ := he
    exact .cons hv ih

theorem Value.AlikeEntries.length_eq {xs ys : List (String × Value)} (h : AlikeEntries xs ys) :
    xs.length = ys.length := by
  induction xs generalizing ys with
  | nil => cases h; rfl
  | cons e xs ih =>
    cases h with
    | cons _ hrest => rw [List.length_cons, List.length_cons, ih hrest]

section Options

variable {α α' β β' : Type}

theorem bind_rel {R : α → α' → Prop} {S : β → β' → Prop} {x : Option α} {y : Option α'}
    {f : α → Option β} {g : α' → Option β'} (h : Option.Rel R x y)
    (hfg : ∀ a b, R a b → Option.Rel S (f a) (g b)) : Option.Rel S (x >>= f) (y >>= g) := by
  cases h with
  | none => exact .none
  | some hab => exact hfg _ _ hab

theorem mapM_rel {R : β → β' → Prop} {f : α → Option β} {g : α → Option β'}
    (h : ∀ a, Option.Rel R (f a) (g a)) (xs : List α) :
    Option.Rel (List.Forall₂ R) (xs.mapM f) (xs.mapM g) := by
  induction xs with
  | nil => exact .some .nil
  | cons x xs ih =>
    rw [List.mapM_cons, List.mapM_cons]
    exact bind_rel (h x) fun _ _ hab ↦ bind_rel ih fun _ _ hrest ↦ .some (.cons hab hrest)

end Options

namespace Store

variable {store : Store} {memory memory' : Ref → Option Bytes}

theorem valueWithin_alike
    (h : ∀ r, Option.Rel (fun a b ↦ a.length = b.length) (memory r) (memory' r))
    (depth : Nat) (above : List Ref) (r : Ref) :
    Option.Rel Value.Alike (store.valueWithin memory depth above r)
      (store.valueWithin memory' depth above r) := by
  induction depth generalizing above r with
  | zero => exact .none
  | succ depth ih =>
    rw [valueWithin, valueWithin]
    cases store.get? r with
    | none => exact .none
    | some cell =>
      simp only [bind, Option.bind_some]
      split
      · exact .some (.refl _)
      · cases cell with
        | atom v => exact .some (.refl _)
        | bits b => exact .some (.refl _)
        | bytearray data =>
          refine .some (.bytearray ?_)
          have hr := h r
          generalize memory r = own, memory' r = own' at hr
          cases hr with
          | none => rfl
          | some hlength => exact hlength
        | list items =>
          exact bind_rel (mapM_rel (ih _) items) fun _ _ hitems ↦ .some (.list hitems.length_eq)
        | tuple items =>
          exact bind_rel (mapM_rel (ih _) items) fun _ _ hitems ↦ .some (.tuple hitems.length_eq)
        | dict entries =>
          refine bind_rel (mapM_rel (fun entry ↦ ?_) entries)
            fun _ _ hentries ↦ .some (.dict (.of_forall₂ hentries))
          exact bind_rel (ih _ entry.2) fun _ _ hv ↦ .some ⟨rfl, hv⟩

end Store

namespace Source

variable {data data' : Bytes} {s t : Source}

def IsTaken : Source → Prop
  | byte .. => False
  | _ => True

theorem isTaken_taken (data : Bytes) (s : Source) : (s.taken data).IsTaken := by
  cases s <;> trivial

theorem isTaken_source (c : Content) : c.source.IsTaken := by
  cases c <;> trivial

theorem isTaken_of_mem_entries {entries : List (String × Source)} (h : s.entries? = some entries)
    {entry : String × Source} (he : entry ∈ entries) : entry.2.IsTaken := by
  unfold entries? at h
  split at h
  · cases h
    obtain ⟨e, -, rfl⟩ := List.mem_map.1 he
    trivial
  · cases h
    obtain ⟨e, -, rfl⟩ := List.mem_map.1 he
    exact isTaken_source e.2
  · split at h
    · cases h
      obtain ⟨e, -, rfl⟩ := List.mem_map.1 he
      trivial
    · contradiction
  · contradiction

theorem length_whole (s : Surroundings) (data : Bytes) :
    (s.whole data).length = s.before.length + data.length + s.after.length := by
  simp only [Surroundings.whole, List.length_append]

theorem now_alike (hs : s.IsTaken) (h : data.length = data'.length) :
    (s.now data).Alike (s.now data') := by
  cases s with
  | value v => exact .refl v
  | sequence o | mapping o => exact .refl (.again (.other o))
  | byte => cases hs
  | part store target r =>
    have hmemory : ∀ r, Option.Rel (fun a b ↦ a.length = b.length) (memoryIn target data r)
        (memoryIn target data' r) := by
      intro r
      rw [memoryIn, memoryIn]
      cases target.filter fun t ↦ t.1 == r with
      | none => exact .none
      | some t =>
        refine .some ?_
        rw [length_whole, length_whole, h]
    have hpart := store.valueWithin_alike hmemory (store.cells.size + 1) [] r
    rw [now, now, Store.valueWith?, Store.valueWith?]
    generalize store.valueWithin (memoryIn target data) _ _ _ = v,
      store.valueWithin (memoryIn target data') _ _ _ = v' at hpart
    cases hpart with
    | none => exact .refl _
    | some halike => exact halike

theorem items?_of_length_eq (h : data.length = data'.length) (s : Source) :
    s.items? data = s.items? data' := by
  cases s with
  | value | sequence | mapping | byte => rfl
  | part store target r =>
    simp only [items?, length_whole, h]

theorem opened_alike (hs : s.IsTaken) (h : data.length = data'.length) :
    (s.opened data).Alike (s.opened data') := by
  rw [opened, opened]
  cases hentries : s.entries? with
  | none => exact now_alike hs h
  | some entries =>
    refine .dict (.of_forall₂ ?_)
    rw [List.forall₂_map_left_iff, List.forall₂_map_right_iff, List.forall₂_same]
    exact fun entry he ↦ ⟨rfl, now_alike (isTaken_of_mem_entries hentries he) h⟩

theorem items?_byte {items : List Source} (h : s.items? data = some items) {around : Surroundings}
    {i index : Nat} (hi : items[i]? = some (byte around index)) :
    items.length = (around.whole data).length ∧ index = i := by
  have hmem := List.mem_of_getElem? hi
  have hvalue : ∀ v, itemsOfValue? v ≠ some items := by
    intro v hv
    obtain ⟨vs, -, rfl⟩ := Option.map_eq_some_iff.1 hv
    obtain ⟨w, -, hw⟩ := List.mem_map.1 hmem
    cases hw
  unfold items? at h
  split at h
  · exact absurd h (hvalue _)
  · cases h
    obtain ⟨c, -, hc⟩ := List.mem_map.1 hmem
    have htaken := isTaken_source c
    rw [hc] at htaken
    cases htaken
  · split at h
    · cases h
      obtain ⟨r, -, hr⟩ := List.mem_map.1 hmem
      cases hr
    · cases h
      obtain ⟨r, -, hr⟩ := List.mem_map.1 hmem
      cases hr
    · split at h
      · cases h
        rw [List.getElem?_map, Option.map_eq_some_iff] at hi
        obtain ⟨k, hk, he⟩ := hi
        cases he
        obtain ⟨hlt, rfl⟩ := List.getElem?_eq_some_iff.1 hk
        rw [List.length_map, List.length_range, List.getElem_range]
        exact ⟨rfl, rfl⟩
      · exact absurd h (hvalue _)
    · exact absurd h (hvalue _)
    · contradiction
  all_goals contradiction

/-- An item is taken as it was in the beginning, while only windows of other items change: the bytes
of the memory itself are as many as fit only if each is written to its own place. -/
theorem taken_of_sameOn {items : List Source} (h : s.items? data = some items)
    {i start size : Nat} (ht : items[i]? = some t) (hsize : 0 < size)
    (hfit : start + items.length * size ≤ data.length)
    (hsame : Window.SameOn (start + i * size) size data data') : t.taken data' = t.taken data := by
  cases t with
  | value | sequence | mapping | part => rfl
  | byte around index =>
    obtain ⟨hlength, rfl⟩ := items?_byte h ht
    have hindex := (List.getElem?_eq_some_iff.1 ht).1
    have hwhole := length_whole around data
    have hle := Nat.le_mul_of_pos_right items.length hsize
    have hbefore : around.before = [] := List.length_eq_zero_iff.1 (by omega)
    have hafter : around.after = [] := List.length_eq_zero_iff.1 (by omega)
    have hone : size = 1 := by
      have hmul : items.length * size ≤ items.length * 1 := by omega
      have := Nat.le_of_mul_le_mul_left hmul (by omega)
      omega
    have hbyte := hsame.getElem?_eq index (by rw [hone]; omega) (by rw [hone]; omega)
    simp only [taken, now, Surroundings.whole, hbefore, hafter, List.nil_append, List.append_nil,
      List.getD_eq_getElem?_getD, hbyte]

end Source

namespace Bitfield

variable {v v' : Value}

theorem runValue_toOption (h : v.Alike v') (name : String) :
    (runValue name v).toOption = (runValue name v').toOption := by
  cases h <;> rfl

theorem assign_toOption (h : v.Alike v') (b : Bitfield) (name : String) :
    (b.assign (name, v)).toOption = (b.assign (name, v')).toOption := by
  have hrun := runValue_toOption h name
  revert hrun
  unfold assign
  -- both sides look for the same run
  split <;> split
  · exact fun _ ↦ rfl
  · rename_i hn _ hp
    cases hn.symm.trans hp
  · rename_i hp hn
    cases hn.symm.trans hp
  · rename_i hp _ hp'
    cases Option.some.inj (hp.symm.trans hp')
    cases runValue name v <;> cases runValue name v' <;> intro hrun <;> cases hrun <;> rfl

theorem foldlM_assign_toOption {entries entries' : List (String × Value)}
    (h : Value.AlikeEntries entries entries') (b : Bitfield) :
    (entries.foldlM assign b).toOption = (entries'.foldlM assign b).toOption := by
  induction entries generalizing entries' b with
  | nil => cases h; rfl
  | cons entry rest ih =>
    cases h with
    | @cons key v w _ ys hv hrest =>
      have hassign := assign_toOption hv b key
      rw [List.foldlM_cons, List.foldlM_cons]
      revert hassign
      cases b.assign (key, v) <;> cases b.assign (key, w) <;> intro hassign <;> cases hassign
      · rfl
      · exact ih hrest _

theorem coerce_toOption (h : v.Alike v') (c : Container) (layout : Value) :
    (coerce c v layout).toOption = (coerce c v' layout).toOption := by
  cases h with
  | refl => rfl
  | bytearray | list | tuple => rfl
  | dict hentries =>
    simp only [coerce]
    cases ofRaw c 0 layout with
    | error e => rfl
    | ok start => exact foldlM_assign_toOption hentries start

end Bitfield

namespace Leaf

variable {data data' : Bytes} {s : Source} {v v' : Value}

theorem charByte_toOption (h : v.Alike v') : (charByte v).toOption = (charByte v').toOption := by
  cases h <;> rfl

theorem isEmpty_eq {α : Type} {xs ys : List α} (h : xs.length = ys.length) :
    xs.isEmpty = ys.isEmpty := by
  cases xs <;> cases ys
  · rfl
  · contradiction
  · contradiction
  · rfl

theorem isTrue_eq (h : v.Alike v') : v.isTrue = v'.isTrue := by
  cases h with
  | refl => rfl
  | bytearray h | list h | tuple h => exact congrArg not (isEmpty_eq h)
  | dict h => exact congrArg not (isEmpty_eq h.length_eq)

theorem encode?_alike (h : v.Alike v') (l : Leaf) (order : ByteOrder) :
    l.encode? order v = l.encode? order v' := by
  cases h with
  | refl => rfl
  | _ => cases l <;> rfl

theorem encoding?_of_length_eq (hs : s.IsTaken) (h : data.length = data'.length) (l : Leaf)
    (order : ByteOrder) (options : Value) :
    l.encoding? order options data s = l.encoding? order options data' s := by
  have hnow := Source.now_alike hs h
  cases l with
  | int signed size => exact encode?_alike hnow (.int signed size) order
  | single => exact encode?_alike hnow .single order
  | double => exact encode?_alike hnow .double order
  | char =>
    have hchar := charByte_toOption hnow
    simp only [encoding?, prepare]
    revert hchar
    cases charByte (s.now data) <;> cases charByte (s.now data') <;> intro hchar <;>
      cases hchar <;> rfl
  | bool =>
    simp only [encoding?, prepare, isTrue_eq hnow]
    rfl
  | bits c =>
    have hcoerce := Bitfield.coerce_toOption (Source.opened_alike hs h) c options
    simp only [encoding?, prepare]
    revert hcoerce
    cases Bitfield.coerce c (s.opened data) options <;>
      cases Bitfield.coerce c (s.opened data') options <;> intro hcoerce <;>
      cases hcoerce <;> rfl

end Leaf

end RecordCodec
