import RecordCodec.Proofs.Expansion.Projection
import RecordCodec.Proofs.Leaf.Plain

namespace RecordCodec

open Expansion

namespace Value

variable {P : Binary64 → Prop} {v w : Value} {path : List Step}

theorem IsPlain.step? (h : v.IsPlain P) {step : Step} (hw : v.step? step = some w) :
    w.IsPlain P := by
  cases step with
  | member name =>
    cases h with
    | dict _ _ hentries => exact hentries _ (mem_of_lookup hw)
    | _ => cases hw
  | element count i =>
    cases h with
    | list hitems =>
      simp only [Value.step?] at hw
      split at hw
      · exact hitems _ (List.mem_of_getElem? hw)
      · cases hw
    | _ => cases hw

theorem IsPlain.at? (h : v.IsPlain P) (hw : v.at? path = some w) : w.IsPlain P := by
  induction path generalizing v with
  | nil =>
    cases hw
    exact h
  | cons step path ih =>
    obtain ⟨part, hpart, hw⟩ := Option.bind_eq_some_iff.1 hw
    exact ih (h.step? hpart) hw

theorem at?_project (h : v.at? path = some w) (hpublic : ∀ step ∈ path, step.IsPublic) :
    v.project.at? path = some w.project := by
  induction path generalizing v with
  | nil =>
    cases h
    rfl
  | cons step path ih =>
    obtain ⟨part, hpart, h⟩ := Option.bind_eq_some_iff.1 h
    obtain ⟨hstep, hpath⟩ := List.forall_mem_cons.1 hpublic
    rw [Value.at?, (step?_project [] hpart).1 hstep, Option.bind_some]
    exact ih h hpath

theorem projectEntries_eq (entries : List (String × Value)) : projectEntries entries =
    (entries.filter fun e ↦ !isReservedName e.1).map fun e ↦ (e.1, e.2.project) := by
  induction entries with
  | nil => rfl
  | cons e rest ih =>
    rw [projectEntries, List.filter_cons, ih]
    cases isReservedName e.1 <;> rfl

theorem isPlain_project_dict {entries : List (String × Value)}
    (hnodup : (entries.map Prod.fst).Nodup)
    (h : ∀ e ∈ entries, isReservedName e.1 = false → e.2.project.IsPlain P) :
    (dict entries).project.IsPlain P := by
  have hkept : ∀ e ∈ projectEntries entries, ∃ e' ∈ entries, isReservedName e'.1 = false ∧
      e = (e'.1, e'.2.project) := by
    intro e he
    rw [projectEntries_eq] at he
    obtain ⟨e', he', rfl⟩ := List.mem_map.1 he
    obtain ⟨hmem, hname⟩ := List.mem_filter.1 he'
    exact ⟨e', hmem, by simpa using hname, rfl⟩
  rw [project]
  refine .dict ?_ ?_ ?_
  · rw [projectEntries_eq, List.map_map]
    exact hnodup.sublist (List.filter_sublist.map _)
  · intro e he
    obtain ⟨e', -, hname, rfl⟩ := hkept e he
    exact hname
  · intro e he
    obtain ⟨e', hmem, hname, rfl⟩ := hkept e he
    exact h e' hmem hname

end Value

namespace Expansion

variable {order : ByteOrder} {buffer : Bytes} {start : Nat} {P : Binary64 → Prop}

def PublicFloats (order : ByteOrder) (buffer : Bytes) (start : Nat) (P : Binary64 → Prop)
    (places : List Place) : Prop :=
  ∀ place ∈ places, (∀ step ∈ place.path, step.IsPublic) → ∀ x,
    place.leaf.decode order place.options (place.window buffer start) = .ok (.float x) → P x

theorem PublicFloats.of_part {places inner : List Place} {step : Step} {offset : Nat}
    (h : PublicFloats order buffer start P places)
    (hmem : ∀ q ∈ inner, q.under step offset ∈ places) (hstep : step.IsPublic) :
    PublicFloats order buffer (start + offset) P inner := by
  intro q hq hpublic x hx
  rw [← Place.window_under step] at hx
  exact h _ (hmem q hq) (Place.forall_path_under.2 ⟨hstep, hpublic⟩) x hx

mutual

theorem exists_plain (order : ByteOrder) (buffer : Bytes) : (x : Expansion) → x.Sound →
    (start : Nat) → start + x.size ≤ buffer.length →
    ∃ v, x.read order buffer start = .ok (v, x.size) ∧
      ∀ P, PublicFloats order buffer start P x.places → v.project.IsPlain P
  | leaf l options, hsound, start, hfit => by
    rw [size] at hfit
    cases hsound with
    | leaf hadmits =>
      have hlength := Window.length_get hfit
      obtain ⟨v, hv⟩ := Leaf.exists_decode hadmits order hlength
      refine ⟨v, ?_, ?_⟩
      · rw [read, read_leaf options hfit, hv]
        rfl
      · intro P hfloats
        rw [places] at hfloats
        refine Leaf.isPlain_project hlength hv fun y hy ↦ ?_
        subst hy
        exact hfloats _ List.mem_cons_self (List.forall_mem_nil _) y hv
  | array member count item, hsound, start, hfit => by
    rw [size] at hfit
    cases hsound with
    | array _ hitem =>
      have hread : ∀ i < count, ∃ v,
          item.read order buffer (start + i * item.size) = .ok (v, item.size) ∧
          ∀ P, PublicFloats order buffer (start + i * item.size) P item.places →
            v.project.IsPlain P := by
        intro i hi
        have hle := element_end_le hi item.size
        exact exists_plain order buffer item hitem _ (by omega)
      obtain ⟨items, rfl, hitems⟩ := exists_items hread
      refine ⟨.list items, ?_, ?_⟩
      · rw [read, readItems_of_getElem? fun i v hi ↦ (hitems i v hi).1]
        rfl
      · intro P hfloats
        rw [Value.project, Value.projectAll_eq_map]
        refine .list fun w hw ↦ ?_
        obtain ⟨v, hv, rfl⟩ := List.mem_map.1 hw
        obtain ⟨i, hi, rfl⟩ := List.mem_iff_getElem.1 hv
        exact (hitems i _ (List.getElem?_eq_getElem hi)).2 P
          (hfloats.of_part (fun q hq ↦ mem_places_element hi hq) trivial)
  | record name members, hsound, start, hfit => by
    rw [size] at hfit
    cases hsound with
    | record _ hnodup hmembers =>
      obtain ⟨entries, hread, hnames, hplain⟩ :=
        exists_plainMembers order buffer 0 members hmembers start hfit
      rw [Nat.add_zero] at hread
      refine ⟨.dict entries, ?_, ?_⟩
      · rw [read, hread]
        rfl
      · intro P hfloats
        rw [places] at hfloats
        exact Value.isPlain_project_dict (hnames ▸ hnodup) (hplain P hfloats)

theorem exists_plainMembers (order : ByteOrder) (buffer : Bytes) (offset : Nat) :
    (members : List (String × Expansion)) → (∀ m ∈ members, m.2.Sound) → (start : Nat) →
    start + offset + sizeAll members ≤ buffer.length →
    ∃ entries, readMembers order buffer members (start + offset) = .ok (entries, sizeAll members) ∧
      entries.map Prod.fst = members.map Prod.fst ∧
      ∀ P, PublicFloats order buffer start P (placesFrom offset members) →
        ∀ e ∈ entries, Value.isReservedName e.1 = false → e.2.project.IsPlain P
  | [], _, _, _ => ⟨[], rfl, rfl, fun _ _ ↦ List.forall_mem_nil _⟩
  | (name, x) :: rest, hsound, start, hfit => by
    rw [sizeAll] at hfit
    obtain ⟨v, hv, hplain⟩ := exists_plain order buffer x (hsound _ List.mem_cons_self)
      (start + offset) (by omega)
    obtain ⟨entries, hentries, hnames, hothers⟩ := exists_plainMembers order buffer
      (offset + x.size) rest (fun m hm ↦ hsound m (List.mem_cons_of_mem _ hm)) start (by omega)
    rw [← Nat.add_assoc] at hentries
    refine ⟨(name, v) :: entries, readMembers_cons hv hentries, ?_, ?_⟩
    · rw [List.map_cons, List.map_cons, hnames]
    · intro P hfloats
      rw [placesFrom] at hfloats
      rw [List.forall_mem_cons]
      constructor
      · intro hname
        have hpublic : (Step.member name).IsPublic := hname
        refine hplain P (hfloats.of_part (fun q hq ↦ ?_) hpublic)
        exact List.mem_append_left _ (List.mem_map_of_mem hq)
      · exact hothers P fun place hp ↦ hfloats place (List.mem_append_right _ hp)

end

/-- What is read has a plain representation, and its doubles have a property exactly if those at the
public places have it. -/
theorem exists_read_plain (order : ByteOrder) (buffer : Bytes) (x : Expansion) (hsound : x.Sound)
    (start : Nat) (hfit : start + x.size ≤ buffer.length) :
    ∃ v, x.read order buffer start = .ok (v, x.size) ∧
      ∀ P, v.project.IsPlain P ↔ PublicFloats order buffer start P x.places := by
  obtain ⟨v, hread, hplain⟩ := exists_plain order buffer x hsound start hfit
  obtain ⟨v', hread', hparts⟩ := exists_read_parts order buffer x hsound start hfit
  cases hread.symm.trans hread'
  refine ⟨v, hread, fun P ↦ ⟨fun h place hp hpublic y hy ↦ ?_, hplain P⟩⟩
  obtain ⟨w, hw, hat⟩ := hparts place hp
  cases hw.symm.trans hy
  exact Value.isPlain_float_iff.1 (h.at? (Value.at?_project hat hpublic))

/-- Whether no double under a public name is infinite or no number. -/
def HasFiniteFloats (x : Expansion) (order : ByteOrder) (buffer : Bytes) (start : Nat) : Prop :=
  ∀ place ∈ x.places, (∀ step ∈ place.path, step.IsPublic) →
    place.leaf.IsFinite order (place.window buffer start)

theorem hasFiniteFloats_iff {x : Expansion} (hfit : start + x.size ≤ buffer.length) :
    x.HasFiniteFloats order buffer start ↔
      PublicFloats order buffer start (fun y ↦ y.isFinite = true) x.places := by
  refine forall₂_congr fun place hp ↦ forall_congr' fun _ ↦ ?_
  have hbounds := x.packed_places.bounds hp
  exact Leaf.isFinite_iff place.options (Window.length_get (by omega))

end Expansion

end RecordCodec
