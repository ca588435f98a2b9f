import RecordCodec.Proofs.Expansion.Stored

namespace RecordCodec

section Options

variable {α α' β : Type}

theorem bind_eq_of_rel {R : α → α' → Prop} {x : Option α} {y : Option α'} {f : α → Option β}
    {g : α' → Option β} (h : Option.Rel R x y) (hfg : ∀ a b, R a b → f a = g b) :
    x.bind f = y.bind g := by
  cases h with
  | none => rfl
  | some hab => exact hfg _ _ hab

end Options

namespace Expansion

variable {data data' : Bytes} {s s' : Source}

mutual

/-- Whether two sources, each while its memory holds the bytes beside it, have the same value at
every leaf. Where one of them lacks what the expansion asks for, so must the other. -/
def Agree (data data' : Bytes) : Expansion → Source → Source → Prop
  | leaf .., s, s' => s.now data = s'.now data' ∧ s.opened data = s'.opened data'
  | array _ _ item, s, s' =>
    Option.Rel (List.Forall₂ fun t t' ↦ Agree data data' item (t.taken data) (t'.taken data'))
      (s.items? data) (s'.items? data')
  | record _ members, s, s' => Option.Rel (AgreeOn data data' members) s.entries? s'.entries?

def AgreeOn (data data' : Bytes) : List (String × Expansion) → List (String × Source) →
    List (String × Source) → Prop
  | [], _, _ => True
  | (name, x) :: rest, entries, entries' =>
    Option.Rel (Agree data data' x) (entries.lookup name) (entries'.lookup name) ∧
      AgreeOn data data' rest entries entries'

end

theorem rel_of_forall {α : Type} {R : α → α → Prop} {x : Option α} (h : ∀ a ∈ x, R a a) :
    Option.Rel R x x := by
  cases x with
  | none => exact .none
  | some a => exact .some (h a rfl)

mutual

theorem agree_value (data data' : Bytes) : (x : Expansion) → (v : Value) →
    x.Agree data data' (.value v) (.value v)
  | leaf l options, v => by
    rw [Agree]
    refine ⟨rfl, ?_⟩
    cases v with
    | dict entries => simp [Source.opened, Source.entries?, Source.now]
    | _ => rfl
  | array member count item, v => by
    rw [Agree]
    apply rel_of_forall
    intro items hitems
    obtain ⟨values, -, rfl⟩ := Option.map_eq_some_iff.1 hitems
    rw [List.forall₂_map_left_iff, List.forall₂_map_right_iff, List.forall₂_same]
    intro w _
    exact agree_value data data' item w
  | record name members, v => by
    rw [Agree]
    apply rel_of_forall
    intro entries hentries
    cases v with
    | dict values =>
      cases hentries
      exact agreeOn_values data data' members values
    | _ => cases hentries

theorem agreeOn_values (data data' : Bytes) : (members : List (String × Expansion)) →
    (values : List (String × Value)) → AgreeOn data data' members
      (values.map fun entry ↦ (entry.1, .value entry.2))
      (values.map fun entry ↦ (entry.1, .value entry.2))
  | [], _ => trivial
  | (name, x) :: rest, values => by
    rw [AgreeOn]
    refine ⟨?_, agreeOn_values data data' rest values⟩
    rw [lookup_map]
    apply rel_of_forall
    intro t ht
    obtain ⟨w, -, rfl⟩ := Option.map_eq_some_iff.1 ht
    exact agree_value data data' x w

end

theorem Agree.element {member : String} {count : Nat} {item : Expansion}
    (h : (array member count item).Agree data data' s s') (i : Nat) :
    Option.Rel (item.Agree data data') (s.step? data (.element count i))
      (s'.step? data' (.element count i)) := by
  rw [Agree] at h
  rw [Source.step?, Source.step?]
  generalize s.items? data = items, s'.items? data' = items' at h ⊢
  cases h with
  | none => exact .none
  | @some items items' hitems =>
    rw [Option.bind_some, Option.bind_some, hitems.length_eq]
    split
    · have hi := getElem?_rel hitems i
      generalize items[i]? = t, items'[i]? = t' at hi ⊢
      cases hi with
      | none => exact .none
      | some ht => exact .some ht
    · exact .none

mutual

/-- Sources that agree cannot be told apart by any leaf. -/
theorem Agree.encoding?_eq (order : ByteOrder) : (x : Expansion) → (s s' : Source) →
    x.Agree data data' s s' → ∀ place ∈ x.places,
      place.encoding? order data s = place.encoding? order data' s'
  | leaf l options, s, s', h, place, hp => by
    rw [Agree] at h
    rw [places, List.mem_singleton] at hp
    subst hp
    exact Leaf.encoding?_congr h.1 h.2 l order options
  | array member count item, s, s', h, place, hp => by
    obtain ⟨i, -, q, hq, rfl⟩ := mem_places_array hp
    rw [Place.encoding?_under, Place.encoding?_under]
    apply bind_eq_of_rel (h.element i)
    intro t t' ht
    exact Agree.encoding?_eq order item t t' ht q hq
  | record name members, s, s', h, place, hp => by
    rw [Agree] at h
    rw [places] at hp
    cases hentries : s.entries? <;> cases hentries' : s'.entries? <;> rw [hentries, hentries'] at h
    case none.none =>
      rw [encoding?_of_entries?_none hentries hp, encoding?_of_entries?_none hentries' hp]
    case some.some =>
      cases h with
      | some h => exact AgreeOn.encoding?_eq order 0 members s s' hentries hentries' h place hp
    all_goals cases h

theorem AgreeOn.encoding?_eq (order : ByteOrder) (offset : Nat) :
    (members : List (String × Expansion)) → (s s' : Source) →
    {entries entries' : List (String × Source)} → s.entries? = some entries →
    s'.entries? = some entries' → AgreeOn data data' members entries entries' →
    ∀ place ∈ placesFrom offset members,
      place.encoding? order data s = place.encoding? order data' s'
  | [], _, _, _, _, _, _, _, place, hp => by
    cases hp
  | (name, x) :: rest, s, s', entries, entries', hentries, hentries', h, place, hp => by
    rw [AgreeOn] at h
    rw [placesFrom] at hp
    rcases List.mem_append.1 hp with hp | hp
    · obtain ⟨q, hq, rfl⟩ := List.mem_map.1 hp
      rw [Place.encoding?_under, Place.encoding?_under, Source.step?, Source.step?, hentries,
        hentries', Option.bind_some, Option.bind_some]
      apply bind_eq_of_rel h.1
      intro t t' ht
      exact Agree.encoding?_eq order x t t' ht q hq
    · exact AgreeOn.encoding?_eq order (offset + x.size) rest s s' hentries hentries' h.2 place hp

end

end Expansion

end RecordCodec
