import RecordCodec.Proofs.Expansion.Basic
import RecordCodec.Proofs.Leaf.Memory

namespace RecordCodec

namespace Expansion

/-- A step from a value to a part of it. -/
inductive Step where
  | member (name : String)
  | element (count index : Nat)
deriving DecidableEq

/-- A leaf inside an expansion. -/
structure Place where
  offset : Nat
  leaf : Leaf
  options : Value
  path : List Step

namespace Place

def under (step : Step) (offset : Nat) (place : Place) : Place :=
  { place with offset := offset + place.offset, path := step :: place.path }

def window (place : Place) (buffer : Bytes) (start : Nat) : Bytes :=
  Window.get buffer (start + place.offset) place.leaf.size

@[simp]
theorem offset_under (step : Step) (offset : Nat) (place : Place) :
    (place.under step offset).offset = offset + place.offset :=
  rfl

@[simp]
theorem leaf_under (step : Step) (offset : Nat) (place : Place) :
    (place.under step offset).leaf = place.leaf :=
  rfl

@[simp]
theorem window_under (step : Step) (offset : Nat) (place : Place) (buffer : Bytes) (start : Nat) :
    (place.under step offset).window buffer start = place.window buffer (start + offset) := by
  rw [window, window, offset_under, leaf_under, Nat.add_assoc]

end Place

mutual

def places : Expansion → List Place
  | leaf l options => [⟨0, l, options, []⟩]
  | array _ count item =>
    (List.range count).flatMap fun i ↦ item.places.map (.under (.element count i) (i * item.size))
  | record _ members => placesFrom 0 members

def placesFrom (offset : Nat) : List (String × Expansion) → List Place
  | [] => []
  | (name, x) :: rest =>
    x.places.map (.under (.member name) offset) ++ placesFrom (offset + x.size) rest

end

end Expansion

namespace Source

variable {data data' : Bytes} {s t : Source}

/-- The part of a source that a step leads to while the memory holds `data`. -/
def step? (data : Bytes) (s : Source) : Expansion.Step → Option Source
  | .member name => s.entries?.bind (List.lookup name)
  | .element count i =>
    (s.items? data).bind fun items ↦
      if items.length = count then items[i]?.map (taken data) else none

def part? (data : Bytes) (s : Source) : List Expansion.Step → Option Source
  | [] => some s
  | step :: path => (s.step? data step).bind fun part ↦ part.part? data path

end Source

namespace Expansion

/-- The bytes of the part that belongs to the place, if there are any. -/
def Place.encoding? (place : Place) (order : ByteOrder) (data : Bytes) (s : Source) :
    Option Bytes :=
  (s.part? data place.path).bind (place.leaf.encoding? order place.options data)

theorem Place.part?_under (place : Place) (data : Bytes) (s : Source) (step : Step) (offset : Nat) :
    s.part? data (place.under step offset).path =
      (s.step? data step).bind fun part ↦ part.part? data place.path :=
  rfl

theorem Place.encoding?_under (place : Place) (order : ByteOrder) (data : Bytes) (s : Source)
    (step : Step) (offset : Nat) : (place.under step offset).encoding? order data s =
      (s.step? data step).bind (place.encoding? order data) := by
  rw [encoding?, part?_under, Option.bind_assoc]
  rfl

/-- Whether places lie one behind the other from one offset up to another. -/
def Packed : Nat → List Place → Nat → Prop
  | start, [], stop => start = stop
  | start, place :: rest, stop =>
    place.offset = start ∧ Packed (start + place.leaf.size) rest stop

namespace Packed

variable {start middle stop : Nat} {front rest : List Place} {place : Place}

theorem append (h : Packed start front middle) (h' : Packed middle rest stop) :
    Packed start (front ++ rest) stop := by
  induction front generalizing start with
  | nil =>
    cases h
    exact h'
  | cons place front ih => exact ⟨h.1, ih h.2⟩

theorem under (h : Packed start front stop) (step : Step) (offset : Nat) :
    Packed (offset + start) (front.map (.under step offset)) (offset + stop) := by
  induction front generalizing start with
  | nil => exact congrArg (offset + ·) h
  | cons place front ih =>
    refine ⟨congrArg (offset + ·) h.1, ?_⟩
    rw [Nat.add_assoc]
    exact ih h.2

theorem start_le (h : Packed start front stop) : start ≤ stop := by
  induction front generalizing start with
  | nil => exact Nat.le_of_eq h
  | cons place front ih =>
    have := ih h.2
    omega

theorem bounds (h : Packed start front stop) (hp : place ∈ front) :
    start ≤ place.offset ∧ place.offset + place.leaf.size ≤ stop := by
  induction front generalizing start with
  | nil => cases hp
  | cons place' front ih =>
    obtain ⟨hoffset, hrest⟩ := h
    rcases List.mem_cons.1 hp with rfl | hp
    · have := hrest.start_le
      omega
    · have := ih hrest hp
      omega

theorem front_of_append (h : Packed start (front ++ place :: rest) stop) :
    Packed start front place.offset := by
  induction front generalizing start with
  | nil => exact h.1.symm
  | cons place' front ih => exact ⟨h.1, ih h.2⟩

end Packed

theorem element_end_le {i count : Nat} (hi : i < count) (size : Nat) :
    i * size + size ≤ count * size := by
  rw [← Nat.succ_mul]
  exact Nat.mul_le_mul_right size hi

theorem packed_range' {item : List Place} {size : Nat} (h : Packed 0 item size) (count n i : Nat) :
    Packed (i * size)
      ((List.range' i n).flatMap fun i ↦ item.map (.under (.element count i) (i * size)))
      ((i + n) * size) := by
  induction n generalizing i with
  | zero => exact rfl
  | succ n ih =>
    rw [List.range'_succ, List.flatMap_cons]
    have hitem := h.under (.element count i) (i * size)
    have hrest := ih (i + 1)
    rw [Nat.add_mul, Nat.one_mul] at hrest
    rw [show i + (n + 1) = i + 1 + n by omega]
    exact hitem.append hrest

mutual

theorem packed_places : (x : Expansion) → Packed 0 x.places x.size
  | leaf l options => by
    rw [places, size]
    exact ⟨rfl, Nat.zero_add _⟩
  | array _ count item => by
    have h := packed_range' (packed_places item) count count 0
    rw [Nat.zero_mul, Nat.zero_add, ← List.range_eq_range'] at h
    rw [places, size]
    exact h
  | record _ members => by
    have h := packed_placesFrom 0 members
    rw [Nat.zero_add] at h
    rw [places, size]
    exact h

theorem packed_placesFrom (offset : Nat) : (members : List (String × Expansion)) →
    Packed offset (placesFrom offset members) (offset + sizeAll members)
  | [] => rfl
  | (name, x) :: rest => by
    have h := (packed_places x).under (.member name) offset
    have hrest := packed_placesFrom (offset + x.size) rest
    rw [placesFrom, sizeAll, ← Nat.add_assoc]
    exact h.append hrest

end

theorem mem_places_array {member : String} {count : Nat} {item : Expansion} {place : Place}
    (h : place ∈ (array member count item).places) : ∃ i < count, ∃ q ∈ item.places,
      place = q.under (.element count i) (i * item.size) := by
  rw [places, List.mem_flatMap] at h
  obtain ⟨i, hi, h⟩ := h
  obtain ⟨q, hq, rfl⟩ := List.mem_map.1 h
  exact ⟨i, List.mem_range.1 hi, q, hq, rfl⟩

theorem mem_places_element {member : String} {count i : Nat} {item : Expansion} {place : Place}
    (hi : i < count) (h : place ∈ item.places) :
    place.under (.element count i) (i * item.size) ∈ (array member count item).places := by
  rw [places, List.mem_flatMap]
  exact ⟨i, List.mem_range.2 hi, List.mem_map_of_mem h⟩

theorem size_pos_of_mem_places {x : Expansion} {place : Place} (h : place ∈ x.places) :
    0 < x.size := by
  have := leaf_size_pos place.leaf
  have := (x.packed_places.bounds h).2
  omega

theorem exists_place {x : Expansion} (h : 0 < x.size) : ∃ place, place ∈ x.places := by
  apply List.exists_mem_of_ne_nil
  intro hnil
  have hpacked := x.packed_places
  rw [hnil] at hpacked
  exact Nat.ne_of_lt h hpacked

theorem step?_element {data : Bytes} {s : Source} {items : List Source}
    (h : s.items? data = some items) (i : Nat) :
    s.step? data (.element items.length i) = items[i]?.map (Source.taken data) := by
  rw [Source.step?, h, Option.bind_some, if_pos rfl]

theorem mem_placesFrom {members : List (String × Expansion)} {offset : Nat} {place : Place}
    (h : place ∈ placesFrom offset members) : ∃ m ∈ members, ∃ offset', ∃ q ∈ m.2.places,
      place = q.under (.member m.1) offset' := by
  induction members generalizing offset with
  | nil => cases h
  | cons m rest ih =>
    rw [placesFrom] at h
    rcases List.mem_append.1 h with h | h
    · obtain ⟨q, hq, rfl⟩ := List.mem_map.1 h
      exact ⟨m, List.mem_cons_self, offset, q, hq, rfl⟩
    · obtain ⟨m', hm, offset', q, hq, rfl⟩ := ih h
      exact ⟨m', List.mem_cons_of_mem _ hm, offset', q, hq, rfl⟩

theorem part?_of_entries?_none {data : Bytes} {s : Source} (h : s.entries? = none) {offset : Nat}
    {members : List (String × Expansion)} {place : Place}
    (hp : place ∈ placesFrom offset members) : s.part? data place.path = none := by
  obtain ⟨m, -, offset', q, -, rfl⟩ := mem_placesFrom hp
  rw [Place.part?_under, Source.step?, h, Option.bind_none, Option.bind_none]

theorem encoding?_of_entries?_none {order : ByteOrder} {data : Bytes} {s : Source}
    (h : s.entries? = none) {offset : Nat} {members : List (String × Expansion)} {place : Place}
    (hp : place ∈ placesFrom offset members) : place.encoding? order data s = none := by
  rw [Place.encoding?, part?_of_entries?_none h hp, Option.bind_none]

theorem isTaken_of_step? {data : Bytes} {s t : Source} {step : Step}
    (h : s.step? data step = some t) : t.IsTaken := by
  cases step with
  | member name =>
    obtain ⟨entries, hentries, ht⟩ := Option.bind_eq_some_iff.1 h
    exact Source.isTaken_of_mem_entries hentries (mem_of_lookup ht)
  | element count i =>
    obtain ⟨items, -, ht⟩ := Option.bind_eq_some_iff.1 h
    split at ht
    · obtain ⟨u, -, rfl⟩ := Option.map_eq_some_iff.1 ht
      exact Source.isTaken_taken data u
    · contradiction

theorem isTaken_of_part? {data : Bytes} {s t : Source} {path : List Step} (hs : s.IsTaken)
    (h : s.part? data path = some t) : t.IsTaken := by
  induction path generalizing s with
  | nil => cases h; exact hs
  | cons step path ih =>
    obtain ⟨part, hpart, ht⟩ := Option.bind_eq_some_iff.1 h
    exact ih (isTaken_of_step? hpart) ht

theorem isTaken_of_mem_placesFrom {data : Bytes} {s t : Source} {offset : Nat}
    {members : List (String × Expansion)} {place : Place} (hp : place ∈ placesFrom offset members)
    (h : s.part? data place.path = some t) : t.IsTaken := by
  obtain ⟨m, -, offset', q, -, rfl⟩ := mem_placesFrom hp
  obtain ⟨part, hpart, ht⟩ := Option.bind_eq_some_iff.1 h
  exact isTaken_of_part? (isTaken_of_step? hpart) ht

section Memory

variable {order : ByteOrder} {data data' : Bytes} {start : Nat}

theorem Place.encoding?_of_part?_eq (place : Place) {s : Source}
    (hlength : data'.length = data.length) (h : s.part? data' place.path = s.part? data place.path)
    (htaken : ∀ t, s.part? data place.path = some t → t.IsTaken) :
    place.encoding? order data' s = place.encoding? order data s := by
  rw [encoding?, encoding?, h]
  cases hpart : s.part? data place.path with
  | none => rfl
  | some part =>
    exact Leaf.encoding?_of_length_eq (htaken part hpart) hlength place.leaf order place.options

theorem step?_element_of_sameOn {s : Source} {count size i : Nat}
    (h : Window.SameOn (start + i * size) size data data') (hsize : 0 < size)
    (hfit : start + count * size ≤ data.length) :
    s.step? data' (.element count i) = s.step? data (.element count i) := by
  rw [Source.step?, Source.step?, Source.items?_of_length_eq h.length_eq s]
  cases hitems : s.items? data with
  | none => rfl
  | some items =>
    simp only [Option.bind_some]
    split
    · rename_i hcount
      cases ht : items[i]? with
      | none => rfl
      | some t =>
        have htaken := Source.taken_of_sameOn hitems ht hsize (hcount ▸ hfit) h
        rw [Option.map_some, Option.map_some, htaken]
    · rfl

mutual

/-- A part is found in the same place while only memory changes that it is not going to be written
to. -/
theorem part?_of_sameOn : (x : Expansion) → {start : Nat} →
    Window.SameOn start x.size data data' → (place : Place) → place ∈ x.places → (s : Source) →
    start + x.size ≤ data.length → s.part? data' place.path = s.part? data place.path
  | leaf l options, _, _, place, hp, s, _ => by
    rw [places, List.mem_singleton] at hp
    subst hp
    rfl
  | array member count item, start, h, place, hp, s, hfit => by
    obtain ⟨i, hi, q, hq, rfl⟩ := mem_places_array hp
    have hsize := size_pos_of_mem_places hq
    have hle := element_end_le hi item.size
    rw [size] at hfit h
    have hitem : Window.SameOn (start + i * item.size) item.size data data' :=
      h.mono (by omega) (by omega)
    rw [Place.part?_under, Place.part?_under, step?_element_of_sameOn hitem hsize hfit]
    cases s.step? data (.element count i) with
    | none => rfl
    | some part => exact part?_of_sameOn item hitem q hq part (by omega)
  | record _ members, start, h, place, hp, s, hfit => by
    rw [places] at hp
    rw [size] at hfit h
    exact partFrom?_of_sameOn 0 members h place hp s hfit

theorem partFrom?_of_sameOn (offset : Nat) : (members : List (String × Expansion)) →
    {start : Nat} → Window.SameOn start (sizeAll members) data data' → (place : Place) →
    place ∈ placesFrom offset members → (s : Source) → start + sizeAll members ≤ data.length →
      s.part? data' place.path = s.part? data place.path
  | [], _, _, _, hp, _, _ => by
    cases hp
  | (name, x) :: rest, start, h, place, hp, s, hfit => by
    rw [placesFrom] at hp
    rw [sizeAll] at hfit h
    rcases List.mem_append.1 hp with hp | hp
    · obtain ⟨q, hq, rfl⟩ := List.mem_map.1 hp
      rw [Place.part?_under, Place.part?_under]
      -- the entries of a mapping do not depend on the memory
      show (s.step? data (.member name)).bind _ = _
      cases s.step? data (.member name) with
      | none => rfl
      | some part =>
        exact part?_of_sameOn x (h.mono (Nat.le_refl _) (by omega)) q hq part (by omega)
    · exact partFrom?_of_sameOn (offset + x.size) rest
        (h.mono (Nat.le_add_right _ x.size) (by omega)) place hp s (by omega)

end

theorem encoding?_of_sameOn (x : Expansion) (h : Window.SameOn start x.size data data')
    (place : Place) (hp : place ∈ x.places) (s : Source) (hs : s.IsTaken)
    (hfit : start + x.size ≤ data.length) :
    place.encoding? order data' s = place.encoding? order data s :=
  place.encoding?_of_part?_eq h.length_eq (part?_of_sameOn x h place hp s hfit)
    fun _ ↦ isTaken_of_part? hs

theorem encodingFrom?_of_sameOn (offset : Nat) (members : List (String × Expansion))
    (h : Window.SameOn start (sizeAll members) data data') (place : Place)
    (hp : place ∈ placesFrom offset members) (s : Source)
    (hfit : start + sizeAll members ≤ data.length) :
    place.encoding? order data' s = place.encoding? order data s :=
  place.encoding?_of_part?_eq h.length_eq (partFrom?_of_sameOn offset members h place hp s hfit)
    fun _ ↦ isTaken_of_mem_placesFrom hp

end Memory

end Expansion

end RecordCodec
