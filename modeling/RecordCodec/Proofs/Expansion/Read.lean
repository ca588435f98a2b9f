import RecordCodec.Proofs.Expansion.Codec
import RecordCodec.Proofs.Expansion.Parts

namespace RecordCodec

theorem Leaf.exists_decode {l : Leaf} {options : Value} (ha : l.Admits options) (order : ByteOrder)
    {block : Bytes} (hb : block.length = l.size) :
    ∃ v, l.decode order options block = .ok v := by
  cases l with
  | int signed size => cases signed <;> exact ⟨_, rfl⟩
  | single => exact ⟨_, rfl⟩
  | double => exact ⟨_, rfl⟩
  | char => exact ⟨_, rfl⟩
  | bool => exact ⟨_, rfl⟩
  | bits c =>
    obtain ⟨layout, hlayout⟩ := ha
    have hraw : order.decode block < 256 ^ c.bytes := by
      have hlt := order.decode_lt block
      rwa [hb] at hlt
    obtain ⟨b, hb', -⟩ := ofRaw_eq_ok (two_pow_width c ▸ hraw) hlayout
    refine ⟨.bits b, ?_⟩
    rw [decode, hb']
    rfl

namespace Expansion

variable {order : ByteOrder} {buffer : Bytes}

theorem read_leaf {l : Leaf} (options : Value) {start : Nat}
    (h : start + l.size ≤ buffer.length) : l.read order options buffer start =
      l.decode order options (Window.get buffer start l.size) := by
  rw [Leaf.read, Window.start?_of_le h]

theorem readItems_of_getElem? {item : Nat → Except Error (Value × Nat)} {items : List Value}
    {size start : Nat}
    (h : ∀ i v, items[i]? = some v → item (start + i * size) = .ok (v, size)) :
    Codec.readItems item items.length start = .ok (items, items.length * size) := by
  induction items generalizing start with
  | nil =>
    rw [List.length_nil, Codec.readItems, Nat.zero_mul]
  | cons v rest ih =>
    have hv := h 0 v List.getElem?_cons_zero
    rw [Nat.zero_mul, Nat.add_zero] at hv
    have hrest : Codec.readItems item rest.length (start + size) =
        .ok (rest, rest.length * size) := ih fun i w hi ↦ by
      have hw := h (i + 1) w (by rwa [List.getElem?_cons_succ])
      rwa [Nat.add_mul, Nat.one_mul, Nat.add_comm (i * size), ← Nat.add_assoc] at hw
    rw [List.length_cons, Codec.readItems, hv, ok_bind]
    simp only [hrest, ok_bind]
    rw [Nat.add_mul, Nat.one_mul, Nat.add_comm]
    rfl

theorem exists_items {n : Nat} {P : Nat → Value → Prop} (h : ∀ i < n, ∃ v, P i v) :
    ∃ items : List Value, items.length = n ∧ ∀ i v, items[i]? = some v → P i v := by
  choose! f hf using h
  refine ⟨(List.range n).map f, by rw [List.length_map, List.length_range], fun i v hi ↦ ?_⟩
  obtain ⟨k, hk, rfl⟩ := Option.map_eq_some_iff.1 ((List.getElem?_map ..).symm.trans hi)
  obtain ⟨hlt, rfl⟩ := List.getElem?_eq_some_iff.1 hk
  rw [List.getElem_range]
  exact hf i (by rwa [List.length_range] at hlt)

theorem exists_read_leaf {l : Leaf} {options : Value} (ha : l.Admits options) (order : ByteOrder)
    {start : Nat} (hfit : start + l.size ≤ buffer.length) :
    ∃ v, l.read order options buffer start = .ok v := by
  rw [read_leaf options hfit]
  exact Leaf.exists_decode ha order (Window.length_get hfit)

abbrev DecodeAlike (order order' : ByteOrder) (buffer buffer' : Bytes) (start start' : Nat)
    (place : Place) : Prop :=
  place.leaf.decode order place.options (place.window buffer start) =
    place.leaf.decode order' place.options (place.window buffer' start')

/-- Whether the part of a value at a place is what the leaf there is decoded as. -/
def Place.IsPartOf (place : Place) (order : ByteOrder) (buffer : Bytes) (start : Nat) (v : Value) :
    Prop :=
  ∃ w, place.leaf.decode order place.options (place.window buffer start) = .ok w ∧
    v.at? place.path = some w

mutual

/-- Two buffers whose leaves are decoded alike are read as the same value: the one with these leaves
as its parts. -/
theorem exists_reads (order order' : ByteOrder) (buffer buffer' : Bytes) : (x : Expansion) →
    x.Sound → (start start' : Nat) → start + x.size ≤ buffer.length →
    start' + x.size ≤ buffer'.length →
    (∀ place ∈ x.places, DecodeAlike order order' buffer buffer' start start' place) →
    ∃ v, x.read order buffer start = .ok (v, x.size) ∧
      x.read order' buffer' start' = .ok (v, x.size) ∧
      ∀ place ∈ x.places, place.IsPartOf order buffer start v
  | leaf l options, hsound, start, start', hfit, hfit', hplaces => by
    rw [places] at hplaces
    rw [size] at hfit hfit'
    have hplace : l.decode order options (Window.get buffer start l.size) =
        l.decode order' options (Window.get buffer' start' l.size) :=
      hplaces _ List.mem_cons_self
    cases hsound with
    | leaf hadmits =>
      obtain ⟨v, hv⟩ := Leaf.exists_decode hadmits order (Window.length_get hfit)
      refine ⟨v, ?_, ?_, ?_⟩
      · rw [read, read_leaf options hfit, hv]
        rfl
      · rw [read, read_leaf options hfit', ← hplace, hv]
        rfl
      · rw [places, List.forall_mem_singleton]
        exact ⟨v, hv, rfl⟩
  | array member count item, hsound, start, start', hfit, hfit', hplaces => by
    rw [size] at hfit hfit'
    cases hsound with
    | array _ hitem =>
      have hread : ∀ i < count, ∃ v,
          item.read order buffer (start + i * item.size) = .ok (v, item.size) ∧
          item.read order' buffer' (start' + i * item.size) = .ok (v, item.size) ∧
          ∀ place ∈ item.places, place.IsPartOf order buffer (start + i * item.size) v := by
        intro i hi
        have hle := element_end_le hi item.size
        apply exists_reads order order' buffer buffer' item hitem _ _ (by omega) (by omega)
        intro place hp
        have hplace := hplaces _ (mem_places_element hi hp)
        rwa [DecodeAlike, Place.window_under, Place.window_under] at hplace
      obtain ⟨items, rfl, hitems⟩ := exists_items hread
      refine ⟨.list items, ?_, ?_, ?_⟩
      · rw [read, readItems_of_getElem? fun i v hi ↦ (hitems i v hi).1]
        rfl
      · rw [read, readItems_of_getElem? fun i v hi ↦ (hitems i v hi).2.1]
        rfl
      · intro place hp
        obtain ⟨i, hi, q, hq, rfl⟩ := mem_places_array hp
        have hget := List.getElem?_eq_getElem hi
        obtain ⟨w, hw, hpart⟩ := (hitems i _ hget).2.2 q hq
        refine ⟨w, ?_, ?_⟩
        · rwa [Place.window_under]
        · rwa [Value.at?_element hget]
  | record name members, hsound, start, start', hfit, hfit', hplaces => by
    rw [places] at hplaces
    rw [size] at hfit hfit'
    cases hsound with
    | record _ hnodup hmembers =>
      obtain ⟨entries, hread, hread', hparts⟩ := exists_readsMembers order order' buffer buffer' 0
        members hmembers hnodup start start' hfit hfit' hplaces
      rw [Nat.add_zero] at hread hread'
      refine ⟨.dict entries, ?_, ?_, ?_⟩
      · rw [read, hread]
        rfl
      · rw [read, hread']
        rfl
      · rw [places]
        exact hparts

theorem exists_readsMembers (order order' : ByteOrder) (buffer buffer' : Bytes) (offset : Nat) :
    (members : List (String × Expansion)) → (∀ m ∈ members, m.2.Sound) →
    (members.map Prod.fst).Nodup → (start start' : Nat) →
    start + offset + sizeAll members ≤ buffer.length →
    start' + offset + sizeAll members ≤ buffer'.length →
    (∀ place ∈ placesFrom offset members,
      DecodeAlike order order' buffer buffer' start start' place) →
    ∃ entries, readMembers order buffer members (start + offset) = .ok (entries, sizeAll members) ∧
      readMembers order' buffer' members (start' + offset) = .ok (entries, sizeAll members) ∧
      ∀ place ∈ placesFrom offset members, place.IsPartOf order buffer start (.dict entries)
  | [], _, _, _, _, _, _, _ => ⟨[], rfl, rfl, List.forall_mem_nil _⟩
  | (name, x) :: rest, hsound, hnodup, start, start', hfit, hfit', hplaces => by
    rw [sizeAll] at hfit hfit'
    rw [placesFrom, List.forall_mem_append] at hplaces
    obtain ⟨hname, hnodup⟩ := List.nodup_cons.1 hnodup
    obtain ⟨hhead, hrest⟩ := hplaces
    obtain ⟨v, hv, hv', hparts⟩ := exists_reads order order' buffer buffer' x
      (hsound _ List.mem_cons_self) (start + offset) (start' + offset) (by omega) (by omega) (by
        intro place hp
        have hplace := hhead _ (List.mem_map_of_mem hp)
        rwa [DecodeAlike, Place.window_under, Place.window_under] at hplace)
    obtain ⟨entries, hentries, hentries', hothers⟩ := exists_readsMembers order order' buffer
      buffer' (offset + x.size) rest (fun m hm ↦ hsound m (List.mem_cons_of_mem _ hm)) hnodup
      start start' (by omega) (by omega) hrest
    rw [← Nat.add_assoc] at hentries hentries'
    refine ⟨(name, v) :: entries, ?_, ?_, ?_⟩
    · exact readMembers_cons hv hentries
    · exact readMembers_cons hv' hentries'
    · rw [placesFrom, List.forall_mem_append]
      constructor
      · intro place hp
        obtain ⟨q, hq, rfl⟩ := List.mem_map.1 hp
        obtain ⟨w, hw, hpart⟩ := hparts q hq
        refine ⟨w, ?_, ?_⟩
        · rwa [Place.window_under]
        · rwa [Value.at?_member]
      · intro place hp
        obtain ⟨w, hw, hpart⟩ := hothers place hp
        refine ⟨w, hw, ?_⟩
        rwa [Value.at?_dict_cons hname hp]

end

theorem exists_read_parts (order : ByteOrder) (buffer : Bytes) (x : Expansion) (hsound : x.Sound)
    (start : Nat) (hfit : start + x.size ≤ buffer.length) :
    ∃ v, x.read order buffer start = .ok (v, x.size) ∧
      ∀ place ∈ x.places, place.IsPartOf order buffer start v := by
  obtain ⟨v, hread, -, hparts⟩ :=
    exists_reads order order buffer buffer x hsound start start hfit hfit fun _ _ ↦ rfl
  exact ⟨v, hread, hparts⟩

theorem exists_read (order : ByteOrder) (buffer : Bytes) (x : Expansion) (hsound : x.Sound)
    (start : Nat) (hfit : start + x.size ≤ buffer.length) :
    ∃ v, x.read order buffer start = .ok (v, x.size) := by
  obtain ⟨v, hread, -⟩ := exists_read_parts order buffer x hsound start hfit
  exact ⟨v, hread⟩

theorem Sound.admits {x : Expansion} (h : x.Sound) :
    ∀ place ∈ x.places, place.leaf.Admits place.options := by
  induction h with
  | leaf hadmits =>
    intro place hp
    rw [places, List.mem_singleton] at hp
    rwa [hp]
  | array _ _ ih =>
    intro place hp
    obtain ⟨i, -, q, hq, rfl⟩ := mem_places_array hp
    exact ih q hq
  | record _ _ _ ih =>
    intro place hp
    rw [places] at hp
    obtain ⟨m, hm, offset, q, hq, rfl⟩ := mem_placesFrom hp
    exact ih m hm q hq

theorem Sound.exists_read_place {x : Expansion} (h : x.Sound) (order : ByteOrder) {start : Nat}
    (hfit : start + x.size ≤ buffer.length) : ∀ place ∈ x.places,
      ∃ v, place.leaf.read order place.options buffer (start + place.offset : Nat) = .ok v := by
  intro place hp
  have hbounds := x.packed_places.bounds hp
  exact exists_read_leaf (h.admits place hp) order (by omega)

end Expansion

end RecordCodec
