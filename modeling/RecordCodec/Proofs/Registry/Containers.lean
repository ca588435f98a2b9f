import RecordCodec.Proofs.Registry.InPlace

namespace RecordCodec

namespace RegistryM

def registerEach : List Descriptor → RegistryM Unit
  | [] => return
  | d :: rest => do
    register d.name (.descriptor d)
    registerEach rest

def registerContainers : RegistryM Unit :=
  registerEach Registry.containerTypes

def left {α : Type} : Except Error α × Registry → EStateM.Result Error Registry α
  | (.ok a, after) => .ok a after
  | (.error e, after) => .error e after

def registryOf {α : Type} : EStateM.Result Error Registry α → Registry
  | .ok _ after => after
  | .error _ after => after

theorem run_registerEach (reg : Registry) (ds : List Descriptor) :
    (registerEach ds).run reg = left (reg.registerEach ds) := by
  induction ds generalizing reg with
  | nil => rfl
  | cons d rest ih =>
    rw [registerEach, run_bind, run_register, Registry.registerEach]
    cases reg.register d.name (.descriptor d) with
    | error e => rfl
    | ok grown => exact ih grown

@[simp]
theorem registryOf_left {α : Type} (ended : Except Error α × Registry) :
    registryOf (left ended) = ended.2 := by
  rcases ended with ⟨result, after⟩
  cases result <;> rfl

end RegistryM

namespace Registry

variable {reg : Registry} {d : Descriptor}

theorem register_own_name (hd : Scalar.isPrimitiveName d.name = false) :
    reg.register d.name (.descriptor d) =
      if d.name ∈ reg.names then .error (.typeTaken d.name)
      else .ok ⟨reg.entries ++ [(d.name, d)]⟩ := by
  rw [register, hd]
  simp [contains]

theorem prefix_registerEach (reg : Registry) (ds : List Descriptor) :
    reg.entries <+: (reg.registerEach ds).2.entries := by
  induction ds generalizing reg with
  | nil => exact List.prefix_refl _
  | cons d rest ih =>
    rw [registerEach]
    cases hgrown : reg.register d.name (.descriptor d) with
    | error e => exact List.prefix_refl _
    | ok grown =>
      obtain ⟨-, -, hentries⟩ := register_eq_ok hgrown
      have hstep : reg.entries <+: grown.entries := ⟨_, hentries.symm⟩
      exact hstep.trans (ih grown)

theorem registerEach_of_taken (hd : Scalar.isPrimitiveName d.name = false)
    (htaken : d.name ∈ reg.names) (rest : List Descriptor) :
    reg.registerEach (d :: rest) = (.error (.typeTaken d.name), reg) := by
  rw [registerEach, register_own_name hd, if_pos htaken]

theorem mem_names_registerEach (hd : Scalar.isPrimitiveName d.name = false) (reg : Registry)
    (rest : List Descriptor) : d.name ∈ (reg.registerEach (d :: rest)).2.names := by
  by_cases htaken : d.name ∈ reg.names
  · rwa [registerEach_of_taken hd htaken]
  · rw [registerEach, register_own_name hd, if_neg htaken]
    have hgrown := List.map_subset Prod.fst
      (prefix_registerEach ⟨reg.entries ++ [(d.name, d)]⟩ rest).subset
    exact hgrown (by simp)

/-- Either every name was free and each descriptor has been entered, or some name was taken and the
descriptors in front of the first such name have been entered. -/
theorem registerEach_cases {ds : List Descriptor} (hnodup : (ds.map Descriptor.name).Nodup)
    (hprimitive : ∀ d ∈ ds, Scalar.isPrimitiveName d.name = false) (reg : Registry) :
    (∀ d ∈ ds, d.name ∉ reg.names) ∧
        reg.registerEach ds = (.ok (), ⟨reg.entries ++ entriesOf ds⟩) ∨
      ∃ before d behind, ds = before ++ d :: behind ∧ (∀ b ∈ before, b.name ∉ reg.names) ∧
        d.name ∈ reg.names ∧
        reg.registerEach ds = (.error (.typeTaken d.name), ⟨reg.entries ++ entriesOf before⟩) := by
  induction ds generalizing reg with
  | nil => exact .inl ⟨List.forall_mem_nil _, by simp [registerEach, entriesOf]⟩
  | cons d rest ih =>
    obtain ⟨hd, hrest⟩ := List.nodup_cons.1 hnodup
    obtain ⟨hprimitive, hprimitives⟩ := List.forall_mem_cons.1 hprimitive
    rw [registerEach, register_own_name hprimitive]
    by_cases htaken : d.name ∈ reg.names
    · rw [if_pos htaken]
      exact .inr ⟨[], d, rest, rfl, List.forall_mem_nil _, htaken, by simp [entriesOf]⟩
    rw [if_neg htaken]
    -- no later name is that of `d`, so each is as free as it was before `d` was entered
    let grown : Registry := ⟨reg.entries ++ [(d.name, d)]⟩
    have hnames : grown.names = reg.names ++ [d.name] := names_of_added rfl
    have hsame : ∀ e ∈ rest, e.name ∈ grown.names ↔ e.name ∈ reg.names := by
      intro e he
      have hne : e.name ≠ d.name := fun h ↦ hd (h ▸ List.mem_map_of_mem he)
      rw [hnames, List.mem_append, List.mem_singleton, or_iff_left hne]
    have hentries (later : List Descriptor) :
        grown.entries ++ entriesOf later = reg.entries ++ entriesOf (d :: later) := by
      simp [grown, entriesOf]
    rcases ih hrest hprimitives grown with ⟨hfree, hended⟩ |
      ⟨before, e, behind, hrest, hfree, htaken', hended⟩
    · refine .inl ⟨List.forall_mem_cons.2 ⟨htaken, fun e he ↦ ?_⟩, ?_⟩
      · exact fun h ↦ hfree e he ((hsame e he).2 h)
      · rw [← hentries]
        exact hended
    · have hbefore : ∀ b ∈ before, b ∈ rest := fun b hb ↦ hrest ▸ List.mem_append_left _ hb
      have he : e ∈ rest := hrest ▸ List.mem_append_right _ List.mem_cons_self
      refine .inr ⟨d :: before, e, behind, by rw [hrest]; rfl,
        List.forall_mem_cons.2 ⟨htaken, fun b hb h ↦ ?_⟩, (hsame e he).1 htaken', ?_⟩
      · exact hfree b hb ((hsame b (hbefore b hb)).2 h)
      · rw [← hentries]
        exact hended

theorem registerContainers_cases (reg : Registry) :
    (∀ d ∈ containerTypes, d.name ∉ reg.names) ∧
        reg.registerContainers = (.ok (), ⟨reg.entries ++ entriesOf containerTypes⟩) ∨
      ∃ before d behind, containerTypes = before ++ d :: behind ∧
        (∀ b ∈ before, b.name ∉ reg.names) ∧ d.name ∈ reg.names ∧
        reg.registerContainers =
          (.error (.typeTaken d.name), ⟨reg.entries ++ entriesOf before⟩) :=
  registerEach_cases (by decide) (by decide) reg

theorem bitfield8_mem_registerContainers (reg : Registry) :
    "Bitfield8" ∈ reg.registerContainers.2.names :=
  mem_names_registerEach (d := .scalar (.ofScalar (.leaf (.bits .bits8)))) (by decide) reg _

theorem registerContainers_unchanged_iff :
    reg.registerContainers.2.entries = reg.entries ↔ "Bitfield8" ∈ reg.names := by
  constructor
  · intro h
    rw [names, ← h]
    exact bitfield8_mem_registerContainers reg
  · intro htaken
    have h : reg.registerContainers = (.error (.typeTaken "Bitfield8"), reg) :=
      registerEach_of_taken (d := .scalar (.ofScalar (.leaf (.bits .bits8)))) (by decide) htaken _
    rw [h]

/-- What may be asked of a registry, the bitfield containers included. -/
inductive Call where
  | single (request : Request)
  | containers

def Call.perform : Call → RegistryM Unit
  | .single request => do
    let _ ← request.perform
    return
  | .containers => RegistryM.registerContainers

def call (reg : Registry) (c : Call) : Registry :=
  RegistryM.registryOf (c.perform.run reg)

def callAll (reg : Registry) (calls : List Call) : Registry :=
  calls.foldl call reg

theorem run_containers (reg : Registry) :
    Call.containers.perform.run reg = RegistryM.left reg.registerContainers :=
  RegistryM.run_registerEach reg containerTypes

theorem call_containers (reg : Registry) : reg.call .containers = reg.registerContainers.2 := by
  rw [call, run_containers, RegistryM.registryOf_left]

theorem prefix_call (reg : Registry) (c : Call) : reg.entries <+: (reg.call c).entries := by
  cases c with
  | single request =>
    rw [call, Call.perform, RegistryM.run_bind]
    rcases reg.perform_cases request with ⟨e, he⟩ | ⟨d, after, hd, -, -, hentries⟩
    · rw [he]
      exact List.prefix_refl _
    · rw [hd]
      exact ⟨_, hentries.symm⟩
  | containers =>
    rw [call_containers]
    exact reg.prefix_registerEach containerTypes

theorem prefix_callAll (reg : Registry) (calls : List Call) :
    reg.entries <+: (reg.callAll calls).entries := by
  induction calls generalizing reg with
  | nil => exact List.prefix_refl _
  | cons c rest ih => exact (reg.prefix_call c).trans (ih (reg.call c))

theorem bitfield8_mem_callAll {calls : List Call} (h : Call.containers ∈ calls)
    (reg : Registry) : "Bitfield8" ∈ (reg.callAll calls).names := by
  induction calls generalizing reg with
  | nil => cases h
  | cons c rest ih =>
    rcases List.mem_cons.1 h with rfl | h
    · have hmem : "Bitfield8" ∈ (reg.call .containers).names := by
        rw [call_containers]
        exact bitfield8_mem_registerContainers reg
      exact List.map_subset Prod.fst (prefix_callAll _ rest).subset hmem
    · exact ih h (reg.call c)

/-- A registry is what any calls make of a new one that holds the primitive types. Registering the
containers then succeeds if none of their names is taken, and appends all of them. Otherwise the
first of the names that is taken is reported, and the containers in front of it are appended. The
registry stays as it was if and only if that is the very first name, as it is from the second call
on. -/
theorem registerContainers_up_to_taken (calls : List Call) :
    let reg := primitive.callAll calls
    Call.containers.perform.run reg = RegistryM.left reg.registerContainers ∧
    containerTypes.map Descriptor.name = ["Bitfield8", "Bitfield16", "Bitfield32", "Bitfield64"] ∧
    ((∀ d ∈ containerTypes, d.name ∉ reg.names) ∧
        reg.registerContainers = (.ok (), ⟨reg.entries ++ entriesOf containerTypes⟩) ∨
      ∃ before d behind, containerTypes = before ++ d :: behind ∧
        (∀ b ∈ before, b.name ∉ reg.names) ∧ d.name ∈ reg.names ∧
        reg.registerContainers =
          (.error (.typeTaken d.name), ⟨reg.entries ++ entriesOf before⟩) ∧
        (Error.typeTaken d.name).kind = .nameConflict) ∧
    (reg.registerContainers.2.entries = reg.entries ↔ "Bitfield8" ∈ reg.names) ∧
    (Call.containers ∈ calls → "Bitfield8" ∈ reg.names) := by
  refine ⟨run_containers _, rfl, ?_, registerContainers_unchanged_iff,
    fun h ↦ bitfield8_mem_callAll h primitive⟩
  refine (registerContainers_cases _).imp_right ?_
  rintro ⟨before, d, behind, hsplit, hfree, htaken, h⟩
  exact ⟨before, d, behind, hsplit, hfree, htaken, h, rfl⟩

def sixteenCalls : List Call :=
  [.single (.compile "u8 a" "Bitfield16")]

/-- The first container has been entered when the name of the second turns out to be taken, and
stays. -/
theorem registerContainers_keeps_first :
    (primitive.callAll sixteenCalls).names.drop 13 = ["Bitfield16"] ∧
      (primitive.callAll sixteenCalls).registerContainers.2.names.drop 13 =
        ["Bitfield16", "Bitfield8"] ∧
      ∃ e, (primitive.callAll sixteenCalls).registerContainers.1 = .error e ∧
        e.kind = .nameConflict ∧
        (primitive.callAll sixteenCalls).registerContainers.2.entries ≠
          (primitive.callAll sixteenCalls).entries := by
  have hnames : (primitive.callAll sixteenCalls).names.drop 13 = ["Bitfield16"] := by
    decide +kernel
  have hafter : (primitive.callAll sixteenCalls).registerContainers.2.names.drop 13 =
      ["Bitfield16", "Bitfield8"] := by
    decide +kernel
  refine ⟨hnames, hafter, ?_⟩
  rcases registerContainers_cases (primitive.callAll sixteenCalls) with
    ⟨hfree, -⟩ | ⟨before, d, behind, -, -, -, h⟩
  · have htaken : "Bitfield16" ∈ (primitive.callAll sixteenCalls).names :=
      List.mem_of_mem_drop (hnames ▸ List.mem_cons_self)
    have hcontainer : Container.bits16 ∈ Container.all := by decide
    exact absurd htaken (hfree _ (List.mem_map_of_mem (List.mem_map_of_mem hcontainer)))
  · refine ⟨.typeTaken d.name, by rw [h], rfl, fun hsame ↦ ?_⟩
    rw [names, hsame, ← names, hnames] at hafter
    exact absurd hafter (by decide)

end Registry

end RecordCodec
