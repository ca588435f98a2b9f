import RecordCodec.Proofs.Expansion.Places
import RecordCodec.Proofs.Leaf.Acceptance

namespace RecordCodec.Expansion

mutual

/-- Whether an expansion can be written from a source, while the memory holds `data`. -/
def Encodable (data : Bytes) : Expansion → Source → Prop
  | leaf l options, s => l.Accepts options (l.seen data s)
  | array _ count item, s => ∃ items, s.items? data = some items ∧ items.length = count ∧
      ∀ t ∈ items, Encodable data item (t.taken data)
  | record _ members, s => ∃ entries, s.entries? = some entries ∧
      EncodableMembers data members entries

/-- Whether each member has an entry that it can be written from; there may be others. -/
def EncodableMembers (data : Bytes) :
    List (String × Expansion) → List (String × Source) → Prop
  | [], _ => True
  | (name, x) :: rest, entries =>
    (∃ t, entries.lookup name = some t ∧ Encodable data x t) ∧ EncodableMembers data rest entries

end

variable {order : ByteOrder} {data : Bytes} {s : Source}

theorem exists_items_of_encodings {member : String} {count : Nat} {item : Expansion}
    (hcount : 0 < count) (hsize : 0 < item.size)
    (h : ∀ place ∈ (array member count item).places, place.encoding? order data s ≠ none) :
    ∃ items, s.items? data = some items ∧ items.length = count := by
  obtain ⟨place, hp⟩ := exists_place hsize
  have hplace := h _ (mem_places_element hcount hp)
  rw [Place.encoding?_under, Source.step?] at hplace
  cases hitems : s.items? data with
  | none =>
    rw [hitems] at hplace
    exact absurd rfl hplace
  | some items =>
    by_cases hlength : items.length = count
    · exact ⟨items, rfl, hlength⟩
    · rw [hitems, Option.bind_some, if_neg hlength] at hplace
      exact absurd rfl hplace

mutual

/-- A source can be written from exactly if every leaf has an encoding. -/
theorem encodable_iff (order : ByteOrder) (data : Bytes) : (x : Expansion) → x.Sound →
    (s : Source) →
    (x.Encodable data s ↔ ∀ place ∈ x.places, place.encoding? order data s ≠ none)
  | leaf l options, hsound, s => by
    cases hsound with
    | leaf hadmits =>
      rw [Encodable, ← Leaf.encoding?_ne_none_iff hadmits order, places]
      constructor
      · intro h place hp
        rw [List.mem_singleton.1 hp]
        exact h
      · intro h
        exact h _ List.mem_cons_self
  | array member count item, hsound, s => by
    cases hsound with
    | array hcount hitem =>
      rw [Encodable]
      constructor
      · rintro ⟨items, hitems, rfl, h⟩ place hp
        obtain ⟨i, hi, q, hq, rfl⟩ := mem_places_array hp
        have ht := h items[i] (List.getElem_mem hi)
        rw [Place.encoding?_under, step?_element hitems, List.getElem?_eq_getElem hi]
        exact (encodable_iff order data item hitem _).1 ht q hq
      · intro h
        obtain ⟨items, hitems, rfl⟩ := exists_items_of_encodings (by omega) hitem.size_pos h
        refine ⟨items, hitems, rfl, fun t ht ↦ ?_⟩
        obtain ⟨i, hi, rfl⟩ := List.getElem_of_mem ht
        refine (encodable_iff order data item hitem _).2 fun q hq ↦ ?_
        have hplace := h _ (mem_places_element hi hq)
        rwa [Place.encoding?_under, step?_element hitems, List.getElem?_eq_getElem hi] at hplace
  | record name members, hsound, s => by
    have hpos := hsound.size_pos
    cases hsound with
    | record _ _ hmembers =>
      rw [Encodable]
      constructor
      · rintro ⟨entries, hentries, h⟩
        rw [places]
        exact (encodableMembers_iff order data 0 members hmembers s entries hentries).1 h
      · intro h
        cases hentries : s.entries? with
        | none =>
          obtain ⟨place, hp⟩ := exists_place hpos
          have hplace := h place hp
          rw [places] at hp
          exact absurd (encoding?_of_entries?_none hentries hp) hplace
        | some entries =>
          rw [places] at h
          exact ⟨entries, rfl,
            (encodableMembers_iff order data 0 members hmembers s entries hentries).2 h⟩

theorem encodableMembers_iff (order : ByteOrder) (data : Bytes) (offset : Nat) :
    (members : List (String × Expansion)) → (∀ m ∈ members, m.2.Sound) → (s : Source) →
    (entries : List (String × Source)) → s.entries? = some entries →
    (EncodableMembers data members entries ↔
      ∀ place ∈ placesFrom offset members, place.encoding? order data s ≠ none)
  | [], _, _, _, _ => ⟨fun _ ↦ nofun, fun _ ↦ trivial⟩
  | (name, x) :: rest, hsound, s, entries, hentries => by
    have hx : x.Sound := hsound _ List.mem_cons_self
    have hrest := encodableMembers_iff order data (offset + x.size) rest
      (fun m hm ↦ hsound m (List.mem_cons_of_mem _ hm)) s entries hentries
    have hstep : s.step? data (.member name) = entries.lookup name := by
      rw [Source.step?, hentries, Option.bind_some]
    rw [EncodableMembers, hrest, placesFrom, List.forall_mem_append, List.forall_mem_map]
    refine and_congr_left fun _ ↦ ?_
    simp only [Place.encoding?_under, hstep]
    constructor
    · rintro ⟨t, ht, h⟩
      rw [ht]
      exact (encodable_iff order data x hx t).1 h
    · intro h
      cases ht : entries.lookup name with
      | none =>
        obtain ⟨place, hp⟩ := exists_place hx.size_pos
        rw [ht] at h
        exact absurd rfl (h place hp)
      | some t =>
        rw [ht] at h
        exact ⟨t, rfl, (encodable_iff order data x hx t).2 h⟩

end

end RecordCodec.Expansion
