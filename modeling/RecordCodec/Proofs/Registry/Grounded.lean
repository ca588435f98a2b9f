import RecordCodec.Proofs.Expansion.Basic
import RecordCodec.Proofs.Registry.Requests

namespace RecordCodec

/-- Whether a type is read as a leaf of its own size, and written as that leaf or not at all. -/
structure ScalarType.IsFixed (t : ScalarType) (l : Leaf) : Prop where
  reader_eq : t.reader = .leaf l
  size_eq : t.size = some l.size
  writer_eq : t.writer = some l ∨ t.writer = none

theorem ScalarType.isFixed_ofScalar (l : Leaf) : (ofScalar (.leaf l)).IsFixed l :=
  ⟨rfl, rfl, .inl rfl⟩

namespace Registry

/-- Whether all that a request registers, if anything, is a type of fixed size. -/
def Request.IsGrounded : Request → Prop
  | .register _ (.descriptor (.scalar t)) => ∃ l, t.IsFixed l
  | .register _ (.descriptor (.record _)) => False
  | .register _ (.value _) => True
  | .compile .. => True

structure Grounded (reg : Registry) : Prop where
  container : ∀ c : Container, reg.find? c.name = some (.scalar (.ofScalar (.leaf (.bits c))))
  scalar : ∀ {name t}, reg.find? name = some (.scalar t) →
    t = .ofScalar .string ∨ ∃ l, t.IsFixed l
  named : ∀ {name r}, reg.find? name = some (.record r) → r.name = name
  inhabited : ∀ {name r}, reg.find? name = some (.record r) → r.members ≠ []
  supported : ∀ {name r}, reg.find? name = some (.record r) → ∀ m ∈ r.members, reg.Supports r m

variable {reg grown : Registry} {name : String} {d : Descriptor} {r : RecordType} {m : Member}

theorem WellFormed.grounded (h : reg.WellFormed) : reg.Grounded where
  container := h.find?_container
  scalar ht := by
    rcases h.find?_cases ht with ⟨l | _, -, -, hs⟩ | ⟨r, -, -, hr⟩
    · cases hs
      exact .inr ⟨l, ScalarType.isFixed_ofScalar l⟩
    · cases hs
      exact .inl rfl
    · cases hr
  named hr := (h.mem_records hr).2
  inhabited hr := h.inhabited _ (h.mem_records hr).1
  supported hr := h.supported _ (h.mem_records hr).1

theorem find?_added_cases {entry : String × Descriptor}
    (hg : grown.entries = reg.entries ++ [entry]) (hd : grown.find? name = some d) :
    reg.find? name = some d ∨ name = entry.1 ∧ d = entry.2 := by
  rw [find?, hg, List.lookup_append, Option.or_eq_some_iff] at hd
  rcases hd with hd | ⟨-, hd⟩
  · exact .inl hd
  · cases List.mem_singleton.1 (mem_of_lookup hd)
    exact .inr ⟨rfl, rfl⟩

namespace Grounded

theorem size_pos (h : reg.Grounded) (hd : reg.find? name = some d) {n : Int}
    (hn : d.size? = some n) : 0 < n := by
  cases d with
  | scalar t =>
    rw [Descriptor.size?_scalar, Option.map_eq_some_iff] at hn
    obtain ⟨k, hk, rfl⟩ := hn
    exact Int.natCast_pos.2 (t.size_pos k hk)
  | record r =>
    cases hn
    exact RecordType.totalSize_pos (h.inhabited hd) fun m hm ↦ (h.supported hd m hm).size_pos

theorem of_added (h : reg.Grounded) (hg : grown.entries = reg.entries ++ [(d.name, d)])
    (hscalar : ∀ t, d = .scalar t → ∃ l, t.IsFixed l)
    (hrecord : ∀ r, d = .record r → r.members ≠ [] ∧ ∀ m ∈ r.members, grown.Supports r m) :
    grown.Grounded where
  container c := find?_of_added hg (h.container c)
  scalar ht := by
    rcases find?_added_cases hg ht with ht | ⟨-, ht⟩
    · exact h.scalar ht
    · exact .inr (hscalar _ ht.symm)
  named hr := by
    rcases find?_added_cases hg hr with hr | ⟨rfl, hd⟩
    · exact h.named hr
    · exact congrArg Descriptor.name hd
  inhabited hr := by
    rcases find?_added_cases hg hr with hr | ⟨-, hr⟩
    · exact h.inhabited hr
    · exact (hrecord _ hr.symm).1
  supported hr m hm := by
    rcases find?_added_cases hg hr with hr | ⟨-, hr⟩
    · refine (h.supported hr m hm).of_added hg ?_
      rw [h.named hr]
      exact mem_names_of_find? hr
    · exact (hrecord _ hr.symm).2 m hm

theorem handle (h : reg.Grounded) {request : Request} (hrequest : request.IsGrounded) :
    (reg.handle request).Grounded := by
  cases request with
  | register name candidate =>
    rw [Registry.handle]
    split
    · rename_i grown hgrown
      obtain ⟨d, rfl, -, rfl, hentries⟩ := register_candidate_eq_ok hgrown
      refine h.of_added hentries ?_ ?_
      · rintro t rfl
        exact hrequest
      · rintro r rfl
        exact hrequest.elim
    · exact h
  | compile text name =>
    rw [Registry.handle, attempt]
    split
    · rename_i r grown hgrown
      obtain ⟨hname, rfl, hentries, declarations, -, hne, hmembers⟩ := compile_eq_ok hgrown
      refine h.of_added (d := .record r) hentries ?_ ?_
      · intro t ht
        cases ht
      · intro r' hr
        cases hr
        exact ⟨members_ne_nil_of_compiled hne hmembers, fun m ↦
          supports_of_compiled hentries hname (fun _ _ _ hd hn ↦ h.size_pos hd hn) hmembers⟩
    · exact h

theorem handleAll (h : reg.Grounded) {requests : List Request}
    (hrequests : ∀ request ∈ requests, request.IsGrounded) :
    (reg.handleAll requests).Grounded := by
  induction requests generalizing reg with
  | nil => exact h
  | cons request rest ih =>
    obtain ⟨hrequest, hrest⟩ := List.forall_mem_cons.1 hrequests
    exact ih (h.handle hrequest) hrest

end Grounded

end Registry

end RecordCodec
