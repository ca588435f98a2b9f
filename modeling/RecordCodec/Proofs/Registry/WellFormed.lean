import RecordCodec.Proofs.Registry.Growth

namespace RecordCodec

theorem lookup_of_mem {α : Type} {entries : List (String × α)} {name : String} {a : α}
    (hn : (entries.map Prod.fst).Nodup) (h : (name, a) ∈ entries) :
    entries.lookup name = some a := by
  induction entries with
  | nil => cases h
  | cons entry rest ih =>
    obtain ⟨hentry, hrest⟩ := List.nodup_cons.1 hn
    rcases List.mem_cons.1 h with rfl | h
    · exact List.lookup_cons_self
    · have hne : name ≠ entry.1 := fun he ↦ hentry (he ▸ List.mem_map_of_mem h)
      rw [List.lookup_cons, beq_eq_false_iff_ne.2 hne]
      exact ih hrest h

theorem mem_of_lookup {α : Type} {entries : List (String × α)} {name : String} {a : α}
    (h : entries.lookup name = some a) : (name, a) ∈ entries := by
  obtain ⟨front, back, rfl, -⟩ := List.lookup_eq_some_iff.1 h
  exact List.mem_append_right _ List.mem_cons_self

theorem RecordType.totalSize_pos {members : List Member} (hne : members ≠ [])
    (h : ∀ m ∈ members, 0 < m.elementSize) : 0 < totalSize members := by
  have hsize : ∀ m ∈ members, 0 < m.size := fun m hm ↦
    Int.mul_pos (h m hm) (Int.natCast_pos.2 m.count_pos)
  clear h
  induction members with
  | nil => contradiction
  | cons m rest ih =>
    have hm := hsize m List.mem_cons_self
    simp only [totalSize]
    cases rest with
    | nil => simpa [totalSize] using hm
    | cons m' rest =>
      have := ih (by simp) (fun n hn ↦ hsize n (List.mem_cons_of_mem _ hn))
      omega

@[simp]
theorem Descriptor.size?_scalar (t : ScalarType) : (scalar t).size? = t.size.map Nat.cast := by
  cases h : t.size <;> simp [size?, h]

namespace Registry

variable {reg grown : Registry} {name : String} {d : Descriptor} {r : RecordType} {m : Member}

def rank (reg : Registry) (name : String) : Nat :=
  reg.names.idxOf name

/-- What a member of a record type rests on. -/
structure Supports (reg : Registry) (r : RecordType) (m : Member) : Prop where
  rank_lt : reg.rank m.typeName < reg.rank r.name
  not_string : m.typeName ≠ Scalar.string.name
  sized : ∃ d, reg.find? m.typeName = some d ∧ d.size? = some m.elementSize
  size_pos : 0 < m.elementSize
  divided : ∀ runs ∈ m.runs, ∃ c l, Container.ofName? m.typeName = some c ∧ Layout.IsNamed l ∧
    l.width ≤ c.width ∧ runs = l.pairs

structure WellFormed (reg : Registry) : Prop where
  entries_eq : reg.entries = standard.entries ++ reg.records.map fun r ↦ (r.name, .record r)
  nodup : reg.names.Nodup
  inhabited : ∀ r ∈ reg.records, r.members ≠ []
  supported : ∀ r ∈ reg.records, ∀ m ∈ r.members, reg.Supports r m

theorem standard_eq : standard =
    ⟨(Scalar.primitives ++ Scalar.containers).map fun s ↦ (s.name, .scalar (.ofScalar s))⟩ :=
  rfl

theorem mem_names_of_find? (h : reg.find? name = some d) : name ∈ reg.names :=
  List.mem_map.2 ⟨_, mem_of_lookup h, rfl⟩

theorem rank_lt_size (h : name ∈ reg.names) : reg.rank name < reg.size := by
  simpa [rank, names, size] using List.idxOf_lt_length_of_mem h

section Added

variable {entry : String × Descriptor} (hg : grown.entries = reg.entries ++ [entry])
include hg

theorem names_of_added : grown.names = reg.names ++ [entry.1] := by
  simp [names, hg]

theorem find?_of_added (h : reg.find? name = some d) : grown.find? name = some d := by
  simp only [find?] at h ⊢
  rw [hg, List.lookup_append, h, Option.some_or]

theorem rank_of_added (h : name ∈ reg.names) : grown.rank name = reg.rank name := by
  rw [rank, names_of_added hg, List.idxOf_append, if_pos h, rank]

theorem rank_added (h : entry.1 ∉ reg.names) : grown.rank entry.1 = reg.size := by
  rw [rank, names_of_added hg, List.idxOf_append, if_neg h]
  simp [names, size]

theorem nodup_of_added (hn : reg.names.Nodup) (h : entry.1 ∉ reg.names) : grown.names.Nodup := by
  rw [names_of_added hg, List.nodup_append]
  refine ⟨hn, by simp, fun a ha b hb he ↦ ?_⟩
  rw [List.mem_singleton.1 hb] at he
  exact h (by rwa [he] at ha)

theorem Supports.of_added (hr : r.name ∈ reg.names) (h : reg.Supports r m) :
    grown.Supports r m := by
  obtain ⟨d, hd, hsize⟩ := h.sized
  refine ⟨?_, h.not_string, ⟨d, find?_of_added hg hd, hsize⟩, h.size_pos, h.divided⟩
  rw [rank_of_added hg (mem_names_of_find? hd), rank_of_added hg hr]
  exact h.rank_lt

end Added

namespace WellFormed

theorem mem_entries (h : reg.WellFormed) (hr : r ∈ reg.records) :
    (r.name, .record r) ∈ reg.entries := by
  rw [h.entries_eq]
  exact List.mem_append_right _ (List.mem_map.2 ⟨r, hr, rfl⟩)

theorem find?_record (h : reg.WellFormed) (hr : r ∈ reg.records) :
    reg.find? r.name = some (.record r) :=
  lookup_of_mem h.nodup (h.mem_entries hr)

theorem find?_cases (h : reg.WellFormed) (hd : reg.find? name = some d) :
    (∃ s ∈ Scalar.primitives ++ Scalar.containers, name = s.name ∧ d = .scalar (.ofScalar s)) ∨
      ∃ r ∈ reg.records, name = r.name ∧ d = .record r := by
  have hmem := mem_of_lookup hd
  rw [h.entries_eq, standard_eq] at hmem
  rcases List.mem_append.1 hmem with hmem | hmem
  · obtain ⟨s, hs, he⟩ := List.mem_map.1 hmem
    cases he
    exact .inl ⟨s, hs, rfl, rfl⟩
  · obtain ⟨r, hr, he⟩ := List.mem_map.1 hmem
    cases he
    exact .inr ⟨r, hr, rfl, rfl⟩

theorem name_of_find? (h : reg.WellFormed) (hd : reg.find? name = some d) : d.name = name := by
  rcases h.find?_cases hd with ⟨s, -, rfl, rfl⟩ | ⟨r, -, rfl, rfl⟩ <;> rfl

theorem mem_records (h : reg.WellFormed) (hr : reg.find? name = some (.record r)) :
    r ∈ reg.records ∧ r.name = name := by
  rcases h.find?_cases hr with ⟨s, -, -, hs⟩ | ⟨r', hr', rfl, he⟩
  · cases hs
  · cases he; exact ⟨hr', rfl⟩

theorem record_size_pos (h : reg.WellFormed) (hr : r ∈ reg.records) : 0 < r.size :=
  RecordType.totalSize_pos (h.inhabited r hr) fun m hm ↦ (h.supported r hr m hm).size_pos

theorem size_pos (h : reg.WellFormed) (hd : reg.find? name = some d) {n : Int}
    (hn : d.size? = some n) : 0 < n := by
  rcases h.find?_cases hd with ⟨s, -, -, rfl⟩ | ⟨r, hr, -, rfl⟩
  · rw [Descriptor.size?_scalar, Option.map_eq_some_iff] at hn
    obtain ⟨k, hk, rfl⟩ := hn
    exact Int.natCast_pos.2 (s.size_pos k hk)
  · cases hn
    exact h.record_size_pos hr

end WellFormed

theorem wellFormed_standard : standard.WellFormed where
  entries_eq := rfl
  nodup := by decide
  inhabited r hr := nomatch (show r ∈ ([] : List RecordType) from hr)
  supported r hr := nomatch (show r ∈ ([] : List RecordType) from hr)

theorem records_of_added (hg : grown.entries = reg.entries ++ [(name, .record r)]) :
    grown.records = reg.records ++ [r] := by
  simp [records, hg]

/-- The members of a record type that is compiled rest on the types that are there before it. -/
theorem supports_of_compiled (hg : grown.entries = reg.entries ++ [(r.name, .record r)])
    (hname : r.name ∉ reg.names)
    (hpos : ∀ name d n, reg.find? name = some d → d.size? = some n → 0 < n)
    {declarations : List Schema.Declaration}
    (hmembers : declarations.Forall₂ (fun d m ↦ d.member reg = .ok m) r.members)
    (hm : m ∈ r.members) : grown.Supports r m := by
  obtain ⟨declaration, -, hd⟩ := exists_of_forall₂ hmembers hm
  obtain ⟨-, -, -, hstring, ⟨d, hfind, hsize⟩, hruns⟩ := Schema.Declaration.member_eq_ok hd
  -- the type was found before the record itself was added
  have hmem := mem_names_of_find? hfind
  refine ⟨?_, hstring, ⟨d, find?_of_added hg hfind, hsize⟩, hpos _ d _ hfind hsize, hruns⟩
  rw [rank_of_added hg hmem, rank_added hg hname]
  exact rank_lt_size hmem

theorem members_ne_nil_of_compiled {declarations : List Schema.Declaration}
    (hne : declarations ≠ [])
    (hmembers : declarations.Forall₂ (fun d m ↦ d.member reg = .ok m) r.members) :
    r.members ≠ [] := by
  intro he
  rw [he, List.forall₂_nil_right_iff] at hmembers
  exact hne hmembers

theorem WellFormed.compile {text : String} (h : reg.WellFormed)
    (hc : reg.compile text name = .ok (r, grown)) : grown.WellFormed := by
  obtain ⟨hname, rfl, hg, declarations, -, hne, hmembers⟩ := compile_eq_ok hc
  have hrecords := records_of_added hg
  constructor
  · rw [hg, hrecords, List.map_append, ← List.append_assoc, ← h.entries_eq]
    rfl
  · exact nodup_of_added hg h.nodup hname
  · intro r' hr'
    rw [hrecords] at hr'
    rcases List.mem_append.1 hr' with hr' | hr'
    · exact h.inhabited r' hr'
    · rw [List.mem_singleton.1 hr']
      exact members_ne_nil_of_compiled hne hmembers
  · intro r' hr' m hm
    rw [hrecords] at hr'
    rcases List.mem_append.1 hr' with hr' | hr'
    · exact (h.supported r' hr' m hm).of_added hg
        (mem_names_of_find? (h.find?_record hr'))
    · rw [List.mem_singleton.1 hr'] at hm ⊢
      exact supports_of_compiled hg hname (fun _ _ _ hd hn ↦ h.size_pos hd hn) hmembers hm

theorem wellFormed_attemptAll (schemas : List (String × String)) :
    (standard.attemptAll schemas).WellFormed :=
  attemptAll_invariant (fun _ _ _ _ _ hc h ↦ h.compile hc) schemas wellFormed_standard

end Registry

end RecordCodec
