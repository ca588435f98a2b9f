import RecordCodec.Proofs.Expansion.Stored

namespace RecordCodec

open Expansion

namespace Value

def step? (v : Value) : Step → Option Value
  | .member name =>
    match v with
    | dict entries => entries.lookup name
    | _ => Option.none
  | .element count i =>
    match v with
    | list items => if items.length = count then items[i]? else Option.none
    | _ => Option.none

def at? (v : Value) : List Step → Option Value
  | [] => some v
  | step :: path => (v.step? step).bind fun part ↦ part.at? path

variable {v w : Value} {data : Bytes}

theorem step?_source {step : Step} (h : v.step? step = some w) :
    (Source.value v).step? data step = some (.value w) := by
  cases step with
  | member name =>
    cases v with
    | dict entries =>
      show List.lookup name (entries.map fun entry ↦ (entry.1, Source.value entry.2)) = _
      simp only [step?] at h
      rw [lookup_map, h, Option.map_some]
    | _ => cases h
  | element count i =>
    cases v with
    | list items =>
      have hitems : (Source.value (.list items)).items? data = some (items.map .value) := rfl
      simp only [step?] at h
      split at h
      · rename_i hlength
        simp [Source.step?, hitems, hlength, h, Source.taken]
      · cases h
    | _ => cases h

theorem part?_of_at? {path : List Step} (h : v.at? path = some w) :
    (Source.value v).part? data path = some (.value w) := by
  induction path generalizing v with
  | nil =>
    cases h
    rfl
  | cons step path ih =>
    obtain ⟨part, hpart, h⟩ := Option.bind_eq_some_iff.1 h
    rw [Source.part?, step?_source hpart, Option.bind_some]
    exact ih h

theorem at?_element {items : List Value} {i : Nat} (hi : items[i]? = some v)
    (place : Expansion.Place) (offset : Nat) :
    (list items).at? (place.under (.element items.length i) offset).path = v.at? place.path := by
  show (step? (list items) (.element items.length i)).bind _ = _
  rw [step?, if_pos rfl, hi, Option.bind_some]

theorem at?_member (name : String) (entries : List (String × Value)) (place : Expansion.Place)
    (offset : Nat) :
    (dict ((name, v) :: entries)).at? (place.under (.member name) offset).path =
      v.at? place.path := by
  show (step? (dict ((name, v) :: entries)) (.member name)).bind _ = _
  rw [step?, List.lookup_cons_self, Option.bind_some]

theorem at?_dict_cons {name : String} {members : List (String × Expansion)}
    (hname : name ∉ members.map Prod.fst) {offset : Nat} {place : Expansion.Place}
    (hp : place ∈ placesFrom offset members) (entries : List (String × Value)) :
    (dict ((name, v) :: entries)).at? place.path = (dict entries).at? place.path := by
  induction members generalizing offset with
  | nil => cases hp
  | cons m rest ih =>
    rw [List.map_cons, List.mem_cons, not_or] at hname
    rw [placesFrom] at hp
    rcases List.mem_append.1 hp with hp | hp
    · obtain ⟨q, -, rfl⟩ := List.mem_map.1 hp
      show Option.bind (List.lookup m.1 ((name, v) :: entries)) _ =
        Option.bind (List.lookup m.1 entries) _
      rw [List.lookup_cons, beq_eq_false_iff_ne.2 (Ne.symm hname.1)]
    · exact ih hname.2 hp

end Value

end RecordCodec
