import RecordCodec.Proofs.Registry.WellFormed

namespace RecordCodec.Registry

/-- What may be asked of a registry, whether it makes sense or not. -/
inductive Request where
  | register (name : String) (candidate : Candidate)
  | compile (text name : String)

def handle (reg : Registry) : Request → Registry
  | .register name candidate =>
    match reg.register name candidate with
    | .ok grown => grown
    | .error _ => reg
  | .compile text name => reg.attempt (text, name)

def handleAll (reg : Registry) (requests : List Request) : Registry :=
  requests.foldl handle reg

variable {reg grown : Registry} {name : String} {d : Descriptor}

theorem register_candidate_eq_ok {candidate : Candidate}
    (h : reg.register name candidate = .ok grown) :
    ∃ d, candidate = .descriptor d ∧ name ∉ reg.names ∧ d.name = name ∧
      grown.entries = reg.entries ++ [(name, d)] := by
  cases candidate with
  | descriptor d => exact ⟨d, rfl, register_eq_ok h⟩
  | value kind =>
    simp only [register] at h
    split at h
    · cases h
    · split at h <;> cases h

theorem handle_cases (reg : Registry) (request : Request) :
    reg.handle request = reg ∨ ∃ d, d.name ∉ reg.names ∧
      (reg.handle request).entries = reg.entries ++ [(d.name, d)] := by
  cases request with
  | register name candidate =>
    rw [handle]
    split
    · rename_i grown hgrown
      obtain ⟨d, -, hname, rfl, hentries⟩ := register_candidate_eq_ok hgrown
      exact .inr ⟨d, hname, hentries⟩
    · exact .inl rfl
  | compile text name =>
    rw [handle, attempt]
    split
    · rename_i r grown hgrown
      obtain ⟨hname, rfl, hentries, -⟩ := compile_eq_ok hgrown
      exact .inr ⟨.record r, hname, hentries⟩
    · exact .inl rfl

theorem prefix_handle (reg : Registry) (request : Request) :
    reg.entries <+: (reg.handle request).entries := by
  rcases reg.handle_cases request with h | ⟨d, -, h⟩
  · exact ⟨[], by simp [h]⟩
  · exact ⟨_, h.symm⟩

theorem prefix_handleAll (reg : Registry) (requests : List Request) :
    reg.entries <+: (reg.handleAll requests).entries := by
  induction requests generalizing reg with
  | nil => exact List.prefix_refl _
  | cons request rest ih => exact (reg.prefix_handle request).trans (ih _)

theorem find?_of_grown (h : reg.entries <+: grown.entries) (hd : reg.find? name = some d) :
    grown.find? name = some d := by
  obtain ⟨later, hlater⟩ := h
  rw [find?] at hd
  rw [find?, ← hlater, List.lookup_append, hd, Option.some_or]

theorem size_le_of_grown (h : reg.entries <+: grown.entries) : reg.size ≤ grown.size :=
  h.length_le

end RecordCodec.Registry
