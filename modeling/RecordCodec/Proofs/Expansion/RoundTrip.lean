import RecordCodec.Proofs.Expansion.Read
import RecordCodec.Proofs.Expansion.Stored

namespace RecordCodec

namespace Expansion

mutual

/-- Whether a value has the shape of the expansion, with canonical leaves. -/
def Canonical : Expansion → Value → Prop
  | leaf l options, v => l.Canonical options v
  | array _ count item, .list items => items.length = count ∧ ∀ v ∈ items, Canonical item v
  | array .., _ => False
  | record _ members, .dict entries => CanonicalEntries members entries
  | record .., _ => False

def CanonicalEntries : List (String × Expansion) → List (String × Value) → Prop
  | [], [] => True
  | (name, x) :: members, (key, v) :: entries =>
    key = name ∧ Canonical x v ∧ CanonicalEntries members entries
  | _, _ => False

end

variable {order : ByteOrder} {buffer : Bytes}

/-- If every leaf comes back from its value, the value that is read has the bytes that were read. -/
theorem exists_value (order : ByteOrder) (buffer : Bytes) (x : Expansion) (hsound : x.Sound)
    (start : Nat) (hfit : start + x.size ≤ buffer.length)
    (hplaces : ∀ place ∈ x.places, place.leaf.Reproduces order (place.window buffer start)) :
    ∃ v, x.read order buffer start = .ok (v, x.size) ∧
      ∀ place ∈ x.places, place.Encodes order v (place.window buffer start) := by
  obtain ⟨v, hread, hparts⟩ := exists_read_parts order buffer x hsound start hfit
  refine ⟨v, hread, ?_⟩
  intro place hp
  have hbounds := x.packed_places.bounds hp
  have hlength : (place.window buffer start).length = place.leaf.size :=
    Window.length_get (by omega)
  obtain ⟨w, hdecode, hpart⟩ := hparts place hp
  obtain ⟨w', hencode, hdecode'⟩ := (hplaces place hp).exists_value (hsound.admits place hp) hlength
  cases hdecode.symm.trans hdecode'
  exact fun data ↦ ⟨w, Leaf.decode_isAtom hdecode, Value.part?_of_at? hpart, hencode data⟩

section Shapes

variable {name member : String} {count : Nat} {x : Expansion} {v : Value}
  {members : List (String × Expansion)} {entries : List (String × Value)}

theorem Canonical.of_array (h : (array member count x).Canonical v) :
    ∃ items, v = .list items ∧ items.length = count ∧ ∀ w ∈ items, x.Canonical w := by
  cases v with
  | list items => exact ⟨items, rfl, by simpa only [Canonical] using h⟩
  | _ => simp only [Canonical] at h

theorem Canonical.of_record (h : (record name members).Canonical v) :
    ∃ entries, v = .dict entries ∧ CanonicalEntries members entries := by
  cases v with
  | dict entries => exact ⟨entries, rfl, by simpa only [Canonical] using h⟩
  | _ => simp only [Canonical] at h

theorem CanonicalEntries.of_cons (h : CanonicalEntries ((name, x) :: members) entries) :
    ∃ v rest, entries = (name, v) :: rest ∧ x.Canonical v ∧ CanonicalEntries members rest := by
  cases entries with
  | nil => simp only [CanonicalEntries] at h
  | cons entry rest =>
    obtain ⟨key, v⟩ := entry
    simp only [CanonicalEntries] at h
    obtain ⟨rfl, hv, hrest⟩ := h
    exact ⟨v, rest, rfl, hv, hrest⟩

end Shapes

mutual

theorem Canonical.exists_part : (x : Expansion) → x.Sound → (v : Value) → x.Canonical v →
    ∀ place ∈ x.places, ∃ w, v.at? place.path = some w ∧ place.leaf.Canonical place.options w
  | leaf l options, _, v, h => by
    rw [Canonical] at h
    rw [places, List.forall_mem_singleton]
    exact ⟨v, rfl, h⟩
  | array member count item, hsound, v, h => by
    obtain ⟨items, rfl, rfl, hitems⟩ := h.of_array
    intro place hp
    obtain ⟨i, hi, q, hq, rfl⟩ := mem_places_array hp
    cases hsound with
    | array _ hitem =>
      obtain ⟨w, hw, hleaf⟩ := Canonical.exists_part item hitem items[i]
        (hitems _ (List.getElem_mem hi)) q hq
      refine ⟨w, ?_, hleaf⟩
      rwa [Value.at?_element (List.getElem?_eq_getElem hi)]
  | record name members, hsound, v, h => by
    obtain ⟨entries, rfl, hentries⟩ := h.of_record
    rw [places]
    cases hsound with
    | record _ hnodup hmembers =>
      exact CanonicalEntries.exists_part 0 members hmembers hnodup entries hentries

theorem CanonicalEntries.exists_part (offset : Nat) : (members : List (String × Expansion)) →
    (∀ m ∈ members, m.2.Sound) → (members.map Prod.fst).Nodup →
    (entries : List (String × Value)) → CanonicalEntries members entries →
    ∀ place ∈ placesFrom offset members, ∃ w, (Value.dict entries).at? place.path = some w ∧
      place.leaf.Canonical place.options w
  | [], _, _, _, _ => List.forall_mem_nil _
  | (name, x) :: rest, hsound, hnodup, entries, h => by
    obtain ⟨hname, hnodup⟩ := List.nodup_cons.1 hnodup
    obtain ⟨v, entries, rfl, hv, hrest⟩ := h.of_cons
    rw [placesFrom, List.forall_mem_append]
    constructor
    · intro place hp
      obtain ⟨q, hq, rfl⟩ := List.mem_map.1 hp
      rw [Value.at?_member]
      exact Canonical.exists_part x (hsound _ List.mem_cons_self) v hv q hq
    · intro place hp
      rw [Value.at?_dict_cons hname hp]
      exact CanonicalEntries.exists_part (offset + x.size) rest
        (fun m hm ↦ hsound m (List.mem_cons_of_mem _ hm)) hnodup entries hrest place hp

end

theorem Canonical.exists_encoding (order : ByteOrder) (x : Expansion) (hsound : x.Sound) (v : Value)
    (h : x.Canonical v) : ∀ place ∈ x.places, ∃ block, place.Encodes order v block := by
  intro place hp
  obtain ⟨w, hw, hleaf⟩ := Canonical.exists_part x hsound v h place hp
  obtain ⟨block, hencode, -⟩ := hleaf.exists_block order
  exact ⟨block, fun data ↦ ⟨w, hleaf.isAtom, Value.part?_of_at? hw, hencode data⟩⟩

mutual

theorem Canonical.read_of_parts (order : ByteOrder) (buffer : Bytes) : (x : Expansion) →
    x.Sound → (v : Value) → x.Canonical v → (start : Nat) → start + x.size ≤ buffer.length →
    (∀ place ∈ x.places, place.IsPartOf order buffer start v) →
    x.read order buffer start = .ok (v, x.size)
  | leaf l options, _, v, _, start, hfit, hparts => by
    rw [places] at hparts
    rw [size] at hfit
    obtain ⟨w, hdecode, hw⟩ := hparts _ List.mem_cons_self
    cases hw
    rw [read, read_leaf options hfit]
    exact congrArg (· >>= fun v ↦ pure (v, l.size)) hdecode
  | array member count item, hsound, v, h, start, hfit, hparts => by
    obtain ⟨items, rfl, rfl, hitems⟩ := h.of_array
    rw [size] at hfit
    cases hsound with
    | array _ hitem =>
      have hread : ∀ i w, items[i]? = some w →
          item.read order buffer (start + i * item.size) = .ok (w, item.size) := by
        intro i w hw
        have hi := (List.getElem?_eq_some_iff.1 hw).1
        have hle := element_end_le hi item.size
        apply Canonical.read_of_parts order buffer item hitem w
          (hitems w (List.mem_of_getElem? hw)) _ (by omega)
        intro q hq
        have hpart := hparts _ (mem_places_element hi hq)
        rwa [Place.IsPartOf, Place.window_under, Value.at?_element hw] at hpart
      rw [read, readItems_of_getElem? hread]
      rfl
  | record name members, hsound, v, h, start, hfit, hparts => by
    obtain ⟨entries, rfl, hentries⟩ := h.of_record
    rw [places] at hparts
    rw [size] at hfit
    cases hsound with
    | record _ hnodup hmembers =>
      have hread := CanonicalEntries.readMembers_of_parts order buffer 0 members hmembers hnodup
        entries hentries start hfit hparts
      rw [Nat.add_zero] at hread
      rw [read, hread]
      rfl

theorem CanonicalEntries.readMembers_of_parts (order : ByteOrder) (buffer : Bytes)
    (offset : Nat) : (members : List (String × Expansion)) → (∀ m ∈ members, m.2.Sound) →
    (members.map Prod.fst).Nodup → (entries : List (String × Value)) →
    CanonicalEntries members entries → (start : Nat) →
    start + offset + sizeAll members ≤ buffer.length →
    (∀ place ∈ placesFrom offset members, place.IsPartOf order buffer start (.dict entries)) →
    readMembers order buffer members (start + offset) = .ok (entries, sizeAll members)
  | [], _, _, entries, h, start, _, _ => by
    cases entries with
    | nil => rfl
    | cons entry rest => simp only [CanonicalEntries] at h
  | (name, x) :: rest, hsound, hnodup, entries, h, start, hfit, hparts => by
    obtain ⟨hname, hnodup⟩ := List.nodup_cons.1 hnodup
    obtain ⟨v, entries, rfl, hv, hrest⟩ := h.of_cons
    rw [sizeAll] at hfit
    rw [placesFrom, List.forall_mem_append] at hparts
    obtain ⟨hhead, htail⟩ := hparts
    have hread := Canonical.read_of_parts order buffer x (hsound _ List.mem_cons_self) v hv
      (start + offset) (by omega) (by
        intro q hq
        have hpart := hhead _ (List.mem_map_of_mem hq)
        rwa [Place.IsPartOf, Place.window_under, Value.at?_member] at hpart)
    have hreads := CanonicalEntries.readMembers_of_parts order buffer (offset + x.size) rest
      (fun m hm ↦ hsound m (List.mem_cons_of_mem _ hm)) hnodup entries hrest start (by omega) (by
        intro place hp
        have hpart := htail place hp
        rwa [Place.IsPartOf, Value.at?_dict_cons hname hp] at hpart)
    rw [← Nat.add_assoc] at hreads
    exact readMembers_cons hread hreads

end

theorem Canonical.read_eq (order : ByteOrder) (buffer : Bytes) (x : Expansion) (hsound : x.Sound)
    (v : Value) (h : x.Canonical v) (start : Nat) (hfit : start + x.size ≤ buffer.length)
    (hplaces : ∀ place ∈ x.places, place.Encodes order v (place.window buffer start)) :
    x.read order buffer start = .ok (v, x.size) := by
  apply Canonical.read_of_parts order buffer x hsound v h start hfit
  intro place hp
  obtain ⟨w, hw, hleaf⟩ := Canonical.exists_part x hsound v h place hp
  obtain ⟨block, hencode, hdecode⟩ := hleaf.exists_block order
  obtain ⟨w', -, hpart, hwindow⟩ := hplaces place hp []
  cases (Value.part?_of_at? hw).symm.trans hpart
  cases (hencode []).symm.trans hwindow
  exact ⟨w, hdecode, hw⟩

end Expansion

end RecordCodec
