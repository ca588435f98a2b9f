import RecordCodec.Proofs.Expansion.Read
import RecordCodec.Proofs.Expansion.Write
import RecordCodec.Proofs.Leaf.Projection

namespace RecordCodec

namespace Expansion

def Step.IsPublic : Step → Prop
  | .member name => Value.isReservedName name = false
  | .element .. => True

mutual

/-- Whether no member at any depth has a reserved name. -/
def IsPublic : Expansion → Prop
  | leaf .. => True
  | array _ _ item => IsPublic item
  | record _ members => ArePublic members

def ArePublic : List (String × Expansion) → Prop
  | [] => True
  | (name, x) :: rest => Value.isReservedName name = false ∧ IsPublic x ∧ ArePublic rest

end

theorem Place.forall_path_under {P : Step → Prop} {place : Place} {step : Step} {offset : Nat} :
    (∀ t ∈ (place.under step offset).path, P t) ↔ P step ∧ ∀ t ∈ place.path, P t :=
  List.forall_mem_cons

mutual

theorem isPublic_iff : (x : Expansion) → x.Sound →
    (x.IsPublic ↔ ∀ place ∈ x.places, ∀ step ∈ place.path, step.IsPublic)
  | leaf l options, _ => by
    rw [IsPublic, places, List.forall_mem_singleton]
    exact iff_of_true trivial (List.forall_mem_nil _)
  | array member count item, hsound => by
    cases hsound with
    | array hcount hitem =>
      rw [IsPublic, isPublic_iff item hitem]
      constructor
      · intro h place hp
        obtain ⟨i, -, q, hq, rfl⟩ := mem_places_array hp
        exact Place.forall_path_under.2 ⟨trivial, h q hq⟩
      · intro h q hq
        exact (Place.forall_path_under.1 (h _ (mem_places_element (i := 0) (by omega) hq))).2
  | record name members, hsound => by
    cases hsound with
    | record _ _ hmembers =>
      rw [IsPublic, places]
      exact arePublic_iff 0 members hmembers

theorem arePublic_iff (offset : Nat) : (members : List (String × Expansion)) →
    (∀ m ∈ members, m.2.Sound) →
    (ArePublic members ↔ ∀ place ∈ placesFrom offset members, ∀ step ∈ place.path, step.IsPublic)
  | [], _ => iff_of_true trivial (List.forall_mem_nil _)
  | (name, x) :: rest, hsound => by
    have hx : x.Sound := hsound _ List.mem_cons_self
    rw [ArePublic, isPublic_iff x hx, arePublic_iff (offset + x.size) rest
      fun m hm ↦ hsound m (List.mem_cons_of_mem _ hm), placesFrom, List.forall_mem_append,
      ← and_assoc, List.forall_mem_map]
    apply and_congr_left'
    simp only [Place.forall_path_under]
    constructor
    · rintro ⟨hname, h⟩ q hq
      exact ⟨hname, h q hq⟩
    · intro h
      obtain ⟨q, hq⟩ := exists_place hx.size_pos
      exact ⟨(h q hq).1, fun q hq ↦ (h q hq).2⟩

end

end Expansion

open Expansion

namespace Value

theorem projectAll_eq_map (items : List Value) : projectAll items = items.map project := by
  induction items with
  | nil => rfl
  | cons v rest ih => rw [projectAll, ih, List.map_cons]

theorem lookup_projectEntries (entries : List (String × Value)) (name : String) :
    (projectEntries entries).lookup name =
      if isReservedName name then Option.none else (entries.lookup name).map project := by
  induction entries with
  | nil => simp [projectEntries]
  | cons entry rest ih =>
    obtain ⟨key, v⟩ := entry
    rw [projectEntries, List.lookup_cons]
    by_cases hname : name = key
    · subst hname
      by_cases hreserved : isReservedName name
      · simp [ih, hreserved]
      · simp [hreserved]
    · rw [beq_eq_false_iff_ne.2 hname]
      by_cases hreserved : isReservedName key
      · rw [if_pos hreserved, ih]
      · rw [if_neg hreserved, List.lookup_cons, beq_eq_false_iff_ne.2 hname, ih]

variable {v w : Value} {data : Bytes}

theorem step?_project (data : Bytes) {step : Step} (h : v.step? step = some w) :
    (step.IsPublic → v.project.step? step = some w.project) ∧
      (¬ step.IsPublic → (Source.value v.project).step? data step = Option.none) := by
  cases step with
  | member name =>
    cases v with
    | dict entries =>
      have hlookup := lookup_projectEntries entries name
      simp only [step?] at h
      rw [h] at hlookup
      constructor
      · intro hname
        rw [Step.IsPublic] at hname
        rw [hname] at hlookup
        exact hlookup
      · intro hname
        rw [Step.IsPublic, Bool.not_eq_false] at hname
        rw [hname] at hlookup
        show List.lookup name ((projectEntries entries).map fun e ↦ (e.1, Source.value e.2)) = _
        rw [lookup_map, hlookup]
        rfl
    | _ => cases h
  | element count i =>
    cases v with
    | list items =>
      simp only [step?] at h
      split at h
      · rename_i hlength
        refine ⟨fun _ ↦ ?_, fun hpublic ↦ absurd trivial hpublic⟩
        simp [project, step?, projectAll_eq_map, hlength, h]
      · cases h
    | _ => cases h

theorem part?_project {path : List Step} (h : v.at? path = some w) :
    ((∀ step ∈ path, step.IsPublic) →
      (Source.value v.project).part? data path = some (.value w.project)) ∧
    (¬ (∀ step ∈ path, step.IsPublic) →
      (Source.value v.project).part? data path = Option.none) := by
  induction path generalizing v with
  | nil =>
    cases h
    exact ⟨fun _ ↦ rfl, fun hpublic ↦ absurd (List.forall_mem_nil _) hpublic⟩
  | cons step path ih =>
    obtain ⟨part, hpart, h⟩ := Option.bind_eq_some_iff.1 h
    obtain ⟨hkept, hlost⟩ := step?_project data hpart
    obtain ⟨ihkept, ihlost⟩ := ih h
    rw [List.forall_mem_cons, Source.part?]
    by_cases hstep : step.IsPublic
    · rw [step?_source (hkept hstep), Option.bind_some, and_iff_right hstep]
      exact ⟨ihkept, ihlost⟩
    · rw [hlost hstep]
      exact ⟨fun hpublic ↦ absurd hpublic.1 hstep, fun _ ↦ rfl⟩

end Value

namespace Expansion

variable {x : Expansion} {order : ByteOrder} {buffer : Bytes} {start : Nat} {v : Value}
  {s : Source} {place : Place}

theorem Place.IsPartOf.exists_externalised (h : place.IsPartOf order buffer start v)
    (ha : place.leaf.Admits place.options)
    (hlength : (place.window buffer start).length = place.leaf.size) (hs : s.Shows v.project)
    (hpublic : ∀ step ∈ place.path, step.IsPublic) (data : Bytes) :
    ∃ block, place.leaf.Externalised order place.options (place.window buffer start) block ∧
      place.encoding? order data s = some block := by
  obtain ⟨w, hdecode, hat⟩ := h
  obtain ⟨t, ht, hshows⟩ := hs.exists_part ((Value.part?_project hat).1 hpublic)
  obtain ⟨block, hblock, hencoding⟩ := Leaf.exists_externalised ha hlength hdecode hshows
  refine ⟨block, hblock, ?_⟩
  rw [Place.encoding?, ht, Option.bind_some, hencoding]

theorem Place.IsPartOf.encoding?_eq_none (h : place.IsPartOf order buffer start v)
    (hs : s.Shows v.project) (hpublic : ¬ ∀ step ∈ place.path, step.IsPublic) (data : Bytes) :
    place.encoding? order data s = none := by
  obtain ⟨w, -, hat⟩ := h
  rw [Place.encoding?, hs.part?_eq_none ((Value.part?_project hat).2 hpublic), Option.bind_none]

/-- What can be read can be written from its representation exactly if no name in it is reserved. -/
theorem encodings_project_iff (hsound : x.Sound) (hfit : start + x.size ≤ buffer.length)
    (hparts : ∀ place ∈ x.places, place.IsPartOf order buffer start v) (hs : s.Shows v.project)
    (data : Bytes) :
    (∀ place ∈ x.places, place.encoding? order data s ≠ none) ↔ x.IsPublic := by
  rw [isPublic_iff x hsound]
  refine forall₂_congr fun place hp ↦ ?_
  have hbounds := x.packed_places.bounds hp
  constructor
  · intro hencoding
    by_contra hpublic
    exact hencoding ((hparts place hp).encoding?_eq_none hs hpublic data)
  · intro hpublic
    obtain ⟨block, -, hencoding⟩ := (hparts place hp).exists_externalised (hsound.admits place hp)
      (Window.length_get (by omega)) hs hpublic data
    rw [hencoding]
    exact Option.some_ne_none block

theorem Complete.externalised {data after : Bytes} {q : Nat} (hsound : x.Sound)
    (hfit : start + x.size ≤ buffer.length) (h : x.Complete order s q data after)
    (hparts : ∀ place ∈ x.places, place.IsPartOf order buffer start v) (hs : s.Shows v.project) :
    ∀ place ∈ x.places, place.leaf.Externalised order place.options (place.window buffer start)
      (place.window after q) := by
  intro place hp
  have hbounds := x.packed_places.bounds hp
  have hwritten := h.encoding?_eq place hp
  by_cases hpublic : ∀ step ∈ place.path, step.IsPublic
  · obtain ⟨block, hblock, hencoding⟩ := (hparts place hp).exists_externalised
      (hsound.admits place hp) (Window.length_get (by omega)) hs hpublic data
    rw [hencoding] at hwritten
    rwa [← Option.some.inj hwritten]
  · rw [(hparts place hp).encoding?_eq_none hs hpublic data] at hwritten
    cases hwritten

end Expansion

end RecordCodec
