import RecordCodec.Proofs.Registry.Requests

namespace RecordCodec

/-- Actions on a registry; an error keeps the registry as it is then. -/
abbrev RegistryM := EStateM Error Registry

namespace RegistryM

def insert (name : String) (d : Descriptor) : RegistryM Unit :=
  modify fun reg ↦ ⟨reg.entries ++ [(name, d)]⟩

def register (name : String) (candidate : Registry.Candidate) : RegistryM Unit := do
  if Scalar.isPrimitiveName name then throw (.primitiveName name)
  if (← get).contains name then throw (.typeTaken name)
  match candidate with
  | .value kind => throw (.notDescriptor kind name)
  | .descriptor d => if d.name = name then insert name d else throw (.misnamed d.name name)

def members (record : String) (seen : List String) :
    List Schema.Declaration → RegistryM (List Member)
  | [] => return []
  | d :: rest => do
    if d.name ∈ seen then throw (.repeatedMember d.line d.name record)
    let m ← MonadExcept.ofExcept (d.member (← get))
    let ms ← members record (d.name :: seen) rest
    return m :: ms

def compile (text name : String) : RegistryM RecordType := do
  if Scalar.isPrimitiveName name then throw (.primitiveName name)
  if (← get).contains name then throw (.recordTaken name)
  let declarations ← MonadExcept.ofExcept (Schema.parse text)
  if declarations.isEmpty then throw (.noMembers name)
  let members ← members name [] declarations
  let record ← MonadExcept.ofExcept (RecordType.make (.text name) members)
  register name (.descriptor (.record record))
  return record

def untouched {α : Type} (reg : Registry) : Except Error α → EStateM.Result Error Registry α
  | .ok a => .ok a reg
  | .error e => .error e reg

def replaced {α : Type} (reg : Registry) :
    Except Error (α × Registry) → EStateM.Result Error Registry α
  | .ok (a, grown) => .ok a grown
  | .error e => .error e reg

variable {α β : Type} {reg : Registry}

theorem run_bind (x : RegistryM α) (f : α → RegistryM β) : (x >>= f).run reg =
    match x.run reg with
    | .ok a reg => (f a).run reg
    | .error e reg => .error e reg := by
  simp only [EStateM.run, bind, EStateM.bind]
  cases x reg <;> rfl

theorem run_get_bind (f : Registry → RegistryM α) : (get >>= f).run reg = (f reg).run reg :=
  rfl

theorem run_guard (c : Prop) [Decidable c] (e : Error) (x : RegistryM α) :
    (if c then (throw e : RegistryM PUnit) >>= fun _ ↦ x else x).run reg =
      if c then .error e reg else x.run reg := by
  by_cases hc : c
  · rw [if_pos hc, if_pos hc]
    rfl
  · rw [if_neg hc, if_neg hc]

theorem run_ofExcept_bind (outcome : Except Error α) (f : α → RegistryM β) :
    (MonadExcept.ofExcept outcome >>= f).run reg =
      match outcome with
      | .ok a => (f a).run reg
      | .error e => .error e reg := by
  cases outcome <;> rfl

theorem replaced_guard (c : Prop) [Decidable c] (e : Error) (x : Except Error (α × Registry)) :
    replaced reg (if c then (throw e : Except Error PUnit) >>= fun _ ↦ x else x) =
      if c then .error e reg else replaced reg x := by
  by_cases hc : c
  · rw [if_pos hc, if_pos hc]
    rfl
  · rw [if_neg hc, if_neg hc]

theorem replaced_bind (outcome : Except Error β) (f : β → Except Error (α × Registry)) :
    replaced reg (outcome >>= f) =
      match outcome with
      | .ok b => replaced reg (f b)
      | .error e => .error e reg := by
  cases outcome <;> rfl

theorem run_register (name : String) (candidate : Registry.Candidate) :
    (register name candidate).run reg =
      replaced reg ((reg.register name candidate).map ((), ·)) := by
  unfold RegistryM.register Registry.register
  rw [run_guard, run_get_bind, run_guard]
  by_cases hprimitive : Scalar.isPrimitiveName name = true
  · rw [if_pos hprimitive, if_pos hprimitive]
    rfl
  by_cases hcontains : reg.contains name = true
  · rw [if_neg hprimitive, if_neg hprimitive, if_pos hcontains, if_pos hcontains]
    rfl
  rw [if_neg hprimitive, if_neg hprimitive, if_neg hcontains, if_neg hcontains]
  cases candidate with
  | value kind => rfl
  | descriptor d =>
    by_cases hd : d.name = name
    · simp only [if_pos hd]
      rfl
    · simp only [if_neg hd]
      rfl

theorem run_members (record : String) (seen : List String)
    (declarations : List Schema.Declaration) :
    (members record seen declarations).run reg =
      untouched reg (Schema.Declaration.membersOf reg record seen declarations) := by
  induction declarations generalizing seen with
  | nil => rfl
  | cons d rest ih =>
    rw [members, run_guard, run_get_bind, run_ofExcept_bind, Schema.Declaration.membersOf]
    by_cases hseen : d.name ∈ seen
    · rw [if_pos hseen, if_pos hseen]
      rfl
    rw [if_neg hseen, if_neg hseen]
    cases d.member reg with
    | error e => rfl
    | ok m =>
      -- looking a type up has left the registry alone, so the rest is made with the same one
      simp only
      rw [run_bind, ih]
      cases Schema.Declaration.membersOf reg record (d.name :: seen) rest <;> rfl

theorem run_compile (text name : String) :
    (compile text name).run reg = replaced reg (reg.compile text name) := by
  unfold RegistryM.compile Registry.compile
  rw [run_guard, run_get_bind, run_guard, replaced_guard, replaced_guard, run_ofExcept_bind,
    replaced_bind]
  refine if_congr Iff.rfl rfl (if_congr Iff.rfl rfl ?_)
  cases Schema.parse text with
  | error e => rfl
  | ok declarations =>
    simp only
    rw [run_guard, replaced_guard, run_bind, run_members, replaced_bind]
    refine if_congr Iff.rfl rfl ?_
    cases Schema.Declaration.membersOf reg name [] declarations with
    | error e => rfl
    | ok members =>
      simp only [untouched]
      rw [run_ofExcept_bind, replaced_bind]
      cases RecordType.make (.text name) members with
      | error e => rfl
      | ok record =>
        -- only here is something entered, and nothing fails behind it
        simp only
        rw [run_bind, run_register, replaced_bind]
        cases reg.register name (.descriptor (.record record)) <;> rfl

end RegistryM

def Descriptor.record? : Descriptor → Option RecordType
  | .record r => some r
  | .scalar _ => none

namespace Registry

def Candidate.descriptor? : Candidate → Option Descriptor
  | .descriptor d => some d
  | .value _ => none

namespace Request

def name : Request → String
  | .register name _ => name
  | .compile _ name => name

/-- Does what is asked for, and gives the descriptor that it was about. -/
def perform : Request → RegistryM (Option Descriptor)
  | .register name candidate => do
    RegistryM.register name candidate
    return candidate.descriptor?
  | .compile text name => do
    return some (.record (← RegistryM.compile text name))

def answer (reg : Registry) : Request → Except Error (Option Descriptor × Registry)
  | .register name candidate => (reg.register name candidate).map (candidate.descriptor?, ·)
  | .compile text name => (reg.compile text name).map fun (r, grown) ↦ (some (.record r), grown)

end Request

variable {start reg : Registry}

theorem run_perform (reg : Registry) (request : Request) :
    request.perform.run reg = RegistryM.replaced reg (request.answer reg) := by
  cases request with
  | register name candidate =>
    rw [Request.perform, RegistryM.run_bind, RegistryM.run_register, Request.answer]
    cases reg.register name candidate <;> rfl
  | compile text name =>
    rw [Request.perform, RegistryM.run_bind, RegistryM.run_compile, Request.answer]
    cases reg.compile text name <;> rfl

theorem answer_cases (reg : Registry) (request : Request) :
    (∃ e, request.answer reg = .error e) ∨
      ∃ d after, request.answer reg = .ok (some d, after) ∧ d.name = request.name ∧
        d.name ∉ reg.names ∧ after.entries = reg.entries ++ [(d.name, d)] := by
  cases request with
  | register name candidate =>
    rw [Request.answer]
    cases hgrown : reg.register name candidate with
    | error e => exact .inl ⟨e, rfl⟩
    | ok grown =>
      obtain ⟨d, rfl, hfree, rfl, hentries⟩ := register_candidate_eq_ok hgrown
      exact .inr ⟨d, grown, rfl, rfl, hfree, hentries⟩
  | compile text name =>
    rw [Request.answer]
    cases hgrown : reg.compile text name with
    | error e => exact .inl ⟨e, rfl⟩
    | ok grown =>
      obtain ⟨hfree, rfl, hentries, -⟩ := compile_eq_ok hgrown
      exact .inr ⟨.record grown.1, grown.2, rfl, rfl, hfree, hentries⟩

/-- A request fails and leaves everything as it was, or it adds one entry at the end. -/
theorem perform_cases (reg : Registry) (request : Request) :
    (∃ e, request.perform.run reg = .error e reg) ∨
      ∃ d after, request.perform.run reg = .ok (some d) after ∧ d.name = request.name ∧
        d.name ∉ reg.names ∧ after.entries = reg.entries ++ [(d.name, d)] := by
  rw [run_perform]
  rcases reg.answer_cases request with ⟨e, he⟩ | ⟨d, after, hd, h⟩
  · exact .inl ⟨e, by rw [he]; rfl⟩
  · exact .inr ⟨d, after, by rw [hd]; rfl, h⟩

/-- Makes requests one after the other, whether they succeed or fail. It gives the descriptors that
the successful ones were about and the registry at the end. -/
def performAll (reg : Registry) : List Request → List Descriptor × Registry
  | [] => ([], reg)
  | request :: rest =>
    match request.perform.run reg with
    | .ok answer after =>
      let (descriptors, last) := after.performAll rest
      (answer.toList ++ descriptors, last)
    | .error _ after => after.performAll rest

/-- What is kept when a descriptor is entered under a free name of its own is kept by all requests,
of the descriptors that have been entered and the registry that they are in. -/
theorem performAll_invariant {P : List Descriptor → Registry → Prop}
    (step : ∀ ds reg d after, P ds reg → d.name ∉ reg.names →
      after.entries = reg.entries ++ [(d.name, d)] → P (ds ++ [d]) after)
    (requests : List Request) (ds : List Descriptor) (h : P ds reg) :
    P (ds ++ (reg.performAll requests).1) (reg.performAll requests).2 := by
  -- `ds` are the descriptors entered by the requests before
  induction requests generalizing reg ds with
  | nil => rwa [performAll, List.append_nil]
  | cons request rest ih =>
    rcases reg.perform_cases request with ⟨e, he⟩ | ⟨d, after, hd, -, hfree, hentries⟩
    · simp only [performAll, he]
      exact ih ds h
    · simp only [performAll, hd]
      have := ih (ds ++ [d]) (step ds reg d after h hfree hentries)
      rwa [List.append_assoc] at this

def entriesOf (descriptors : List Descriptor) : List (String × Descriptor) :=
  descriptors.map fun d ↦ (d.name, d)

theorem entries_performAll (reg : Registry) (requests : List Request) :
    (reg.performAll requests).2.entries =
      reg.entries ++ entriesOf (reg.performAll requests).1 := by
  refine performAll_invariant (P := fun ds after ↦ after.entries = reg.entries ++ entriesOf ds)
    (fun ds before d after h _ hafter ↦ ?_) requests [] (List.append_nil _).symm
  rw [hafter, h, List.append_assoc, entriesOf, entriesOf, List.map_append]
  rfl

theorem nodup_performAll (h : reg.names.Nodup) (requests : List Request) :
    (reg.performAll requests).2.names.Nodup :=
  performAll_invariant (P := fun _ after ↦ after.names.Nodup)
    (fun _ _ _ _ h hfree hafter ↦ nodup_of_added hafter h hfree) requests [] h

theorem lookup_performAll {name : String} {d : Descriptor} (h : reg.lookup name = .ok d)
    (requests : List Request) : (reg.performAll requests).2.lookup name = .ok d :=
  lookup_eq_ok_iff.2
    (find?_of_grown ⟨_, (reg.entries_performAll requests).symm⟩ (lookup_eq_ok_iff.1 h))

theorem records_performAll (h : reg.records = []) (requests : List Request) :
    (reg.performAll requests).2.records =
      (reg.performAll requests).1.filterMap Descriptor.record? := by
  refine performAll_invariant (P := fun ds after ↦ after.records = ds.filterMap Descriptor.record?)
    (fun ds before d after h _ hafter ↦ ?_) requests [] h
  rw [List.filterMap_append, ← h, records, records, hafter, List.filterMap_append]
  cases d <;> rfl

theorem exists_eq_of_new (h : start = primitive ∨ start = standard) :
    ∃ containers, start =
      ⟨(Scalar.primitives ++ containers).map fun s ↦ (s.name, .scalar (.ofScalar s))⟩ := by
  rcases h with rfl | rfl
  · exact ⟨[], rfl⟩
  · exact ⟨Scalar.containers, rfl⟩

theorem nodup_of_new (h : start = primitive ∨ start = standard) : start.names.Nodup := by
  rcases h with rfl | rfl <;> decide

theorem records_of_new (h : start = primitive ∨ start = standard) : start.records = [] := by
  rcases h with rfl | rfl <;> rfl

theorem lookup_of_new (h : start = primitive ∨ start = standard) {s : Scalar}
    (hs : s ∈ Scalar.primitives) : start.lookup s.name = .ok (.scalar (.ofScalar s)) := by
  obtain ⟨containers, hstart⟩ := exists_eq_of_new h
  refine lookup_eq_ok_iff.2 (lookup_of_mem (nodup_of_new h) ?_)
  rw [hstart]
  exact List.mem_map_of_mem (List.mem_append_left _ hs)

/-- Entries are only ever inserted, and whatever fails changes nothing. A registry is `reg` after
any requests to a new one. One more request fails and leaves it as it is, or it appends an entry
for a name that was absent. What a name is bound to it stays bound to, whatever is asked for later,
and the primitive types are bound from the start. No name occurs twice, and the record types are
those that have been entered, in the order in which their requests succeeded. -/
theorem requests_insert_only (h : start = primitive ∨ start = standard) (earlier : List Request) :
    let (entered, reg) := start.performAll earlier
    (∀ request : Request, request.perform.run reg = RegistryM.replaced reg (request.answer reg) ∧
      ((∃ e, request.perform.run reg = .error e reg) ∨
        ∃ d after, request.perform.run reg = .ok (some d) after ∧ d.name = request.name ∧
          d.name ∉ reg.names ∧ after.entries = reg.entries ++ [(d.name, d)])) ∧
    (∀ name d, reg.lookup name = .ok d →
      ∀ later, (reg.performAll later).2.lookup name = .ok d) ∧
    (∀ s ∈ Scalar.primitives, reg.lookup s.name = .ok (.scalar (.ofScalar s))) ∧
    reg.names.Nodup ∧
    reg.entries = start.entries ++ entriesOf entered ∧
    reg.records = entered.filterMap Descriptor.record? := by
  refine ⟨fun request ↦ ⟨run_perform _ request, perform_cases _ request⟩, ?_, ?_,
    nodup_performAll (nodup_of_new h) earlier, entries_performAll start earlier,
    records_performAll (records_of_new h) earlier⟩
  · intro name d hd later
    exact lookup_performAll hd later
  · intro s hs
    exact lookup_performAll (lookup_of_new h hs) earlier

def lineRequests : List Request :=
  [.compile "u8 x\nu8 y" "Dot", .compile "u16 z" "Dot", .register "Ink" (.value "int"),
    .compile "u8 x" "u8", .compile "Dot[2] ends" "Line"]

theorem requests_insert_only_line : (primitive = primitive ∨ primitive = standard) ∧
    (primitive.performAll lineRequests).2.names.drop 13 = ["Dot", "Line"] ∧
    (primitive.performAll lineRequests).2.records =
      (primitive.performAll lineRequests).1.filterMap Descriptor.record? ∧
    ∃ d, d.size? = some 2 ∧
      ∀ later, ((primitive.performAll lineRequests).2.performAll later).2.lookup "Dot" = .ok d := by
  obtain ⟨-, hkept, -, -, -, hrecords⟩ := requests_insert_only (.inl rfl) lineRequests
  refine ⟨.inl rfl, by decide +kernel, hrecords, ?_⟩
  have hsize : ((primitive.performAll lineRequests).2.find? "Dot").bind Descriptor.size? =
      some 2 := by
    decide +kernel
  obtain ⟨d, hd, hsize⟩ := Option.bind_eq_some_iff.1 hsize
  exact ⟨d, hsize, hkept "Dot" d (lookup_eq_ok_iff.2 hd)⟩

end Registry

end RecordCodec
