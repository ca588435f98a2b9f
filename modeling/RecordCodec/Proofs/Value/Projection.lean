import RecordCodec.Proofs.Expansion.Plain

namespace RecordCodec.Value

open Expansion

/-- What lists and mappings lead to from a value, the value itself included. -/
inductive Reaches : Value → Value → Prop
  | refl (v : Value) : Reaches v v
  | item {items : List Value} {v w : Value} : v ∈ items → Reaches v w → Reaches (.list items) w
  | entry {entries : List (String × Value)} {e : String × Value} {w : Value} :
      e ∈ entries → Reaches e.2 w → Reaches (.dict entries) w

/-- Whether a value is a bitfield, or a mapping with an entry under a reserved name. -/
def IsInternal : Value → Prop
  | bits _ => True
  | dict entries => ∃ e ∈ entries, isReservedName e.1 = true
  | _ => False

def IsExternal (v : Value) : Prop :=
  ∀ w, v.Reaches w → ¬ w.IsInternal

theorem isExternal_list_iff {items : List Value} :
    (list items).IsExternal ↔ ∀ v ∈ items, v.IsExternal := by
  constructor
  · intro h v hv w hw
    exact h w (.item hv hw)
  · intro h w hw
    cases hw with
    | refl => exact id
    | item hv hw => exact h _ hv w hw

theorem isExternal_dict_iff {entries : List (String × Value)} : (dict entries).IsExternal ↔
    ∀ e ∈ entries, isReservedName e.1 = false ∧ e.2.IsExternal := by
  constructor
  · intro h e he
    refine ⟨?_, fun w hw ↦ h w (.entry he hw)⟩
    rw [← Bool.not_eq_true]
    exact fun hreserved ↦ h _ (.refl _) ⟨e, he, hreserved⟩
  · intro h w hw
    cases hw with
    | refl =>
      rintro ⟨e, he, hreserved⟩
      exact Bool.false_ne_true ((h e he).1.symm.trans hreserved)
    | entry he hw => exact (h _ he).2 w hw

def IsEnd : Value → Prop
  | bits _ | list _ | dict _ => False
  | _ => True

theorem isExternal_of_isEnd {v : Value} (h : v.IsEnd) : v.IsExternal := by
  intro w hw
  cases hw with
  | refl =>
    cases v with
    | bits | dict => cases h
    | _ => exact id
  | item | entry => cases h

theorem isEnd_projectCell (b : Bitfield) (p : Placed) : (b.projectCell p).IsEnd := by
  rw [Bitfield.projectCell]
  split <;> trivial

theorem isExternal_project_bits (b : Bitfield) : (dict b.project).IsExternal := by
  rw [isExternal_dict_iff]
  intro e he
  obtain ⟨p, hp, rfl⟩ := List.mem_map.1 he
  have hreserved : p.field.isReserved = false := by simpa using (List.mem_filter.1 hp).2
  exact ⟨hreserved, isExternal_of_isEnd (isEnd_projectCell b p)⟩

mutual

theorem isExternal_project : (v : Value) → v.project.IsExternal
  | bits b => isExternal_project_bits b
  | dict entries => isExternal_dict_iff.2 (isExternal_projectEntries entries)
  | list items => isExternal_list_iff.2 (isExternal_projectAll items)
  | none | bool _ | int _ | float _ | text _ | bytes _ | bytearray _ | tuple _ | again _ =>
    isExternal_of_isEnd trivial

theorem isExternal_projectAll : (items : List Value) → ∀ v ∈ projectAll items, v.IsExternal
  | [] => nofun
  | v :: rest => by
    rw [projectAll, List.forall_mem_cons]
    exact ⟨isExternal_project v, isExternal_projectAll rest⟩

theorem isExternal_projectEntries : (entries : List (String × Value)) →
    ∀ e ∈ projectEntries entries, isReservedName e.1 = false ∧ e.2.IsExternal
  | [] => nofun
  | (name, v) :: rest => by
    rw [projectEntries]
    cases hname : isReservedName name with
    | true => exact isExternal_projectEntries rest
    | false =>
      rw [if_neg Bool.false_ne_true, List.forall_mem_cons]
      exact ⟨⟨hname, isExternal_project v⟩, isExternal_projectEntries rest⟩

end

mutual

theorem project_eq_self : (v : Value) → v.IsExternal → v.project = v
  | bits b, h => absurd trivial (h _ (.refl _))
  | dict entries, h => by
    rw [project, projectEntries_eq_self entries (isExternal_dict_iff.1 h)]
  | list items, h => by
    rw [project, projectAll_eq_self items (isExternal_list_iff.1 h)]
  | none, _ | bool _, _ | int _, _ | float _, _ | text _, _ | bytes _, _ | bytearray _, _
  | tuple _, _ | again _, _ => rfl

theorem projectAll_eq_self : (items : List Value) → (∀ v ∈ items, v.IsExternal) →
    projectAll items = items
  | [], _ => rfl
  | v :: rest, h => by
    obtain ⟨hv, hrest⟩ := List.forall_mem_cons.1 h
    rw [projectAll, project_eq_self v hv, projectAll_eq_self rest hrest]

theorem projectEntries_eq_self : (entries : List (String × Value)) →
    (∀ e ∈ entries, isReservedName e.1 = false ∧ e.2.IsExternal) →
    projectEntries entries = entries
  | [], _ => rfl
  | (name, v) :: rest, h => by
    obtain ⟨⟨hname, hv⟩, hrest⟩ := List.forall_mem_cons.1 h
    rw [projectEntries, hname, if_neg Bool.false_ne_true, project_eq_self v hv,
      projectEntries_eq_self rest hrest]

end

theorem project_eq_self_iff {v : Value} : v.project = v ↔ v.IsExternal :=
  ⟨fun h ↦ h ▸ isExternal_project v, project_eq_self v⟩

theorem project_project (v : Value) : v.project.project = v.project :=
  project_eq_self_iff.2 (isExternal_project v)

/-- Whether a representation has the length of a list, the names of a mapping or a bitfield in their
order, the reserved ones left out, and is anything else itself. -/
def KeepsShape : Value → Value → Prop
  | list items, u => ∃ items', u = list items' ∧ items'.length = items.length
  | dict entries, u => ∃ entries', u = dict entries' ∧
    entries'.map Prod.fst = (entries.map Prod.fst).filter fun name ↦ !isReservedName name
  | bits b, u => ∃ entries', u = dict entries' ∧
    entries'.map Prod.fst = b.layout.names.filter fun name ↦ !isReservedName name
  | v, u => u = v

theorem keepsShape_project (v : Value) : v.KeepsShape v.project := by
  cases v with
  | list items =>
    refine ⟨_, rfl, ?_⟩
    rw [projectAll_eq_map, List.length_map]
  | dict entries =>
    refine ⟨_, rfl, ?_⟩
    rw [projectEntries_eq, List.map_map, List.filter_map]
    rfl
  | bits b =>
    refine ⟨_, rfl, ?_⟩
    rw [Layout.names, ← Layout.names_placeFrom b.layout.fields 0, List.filter_map, Bitfield.project,
      List.map_map]
    rfl
  | _ => rfl

end RecordCodec.Value
