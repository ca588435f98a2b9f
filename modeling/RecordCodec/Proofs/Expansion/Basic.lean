import RecordCodec.Leaf
import RecordCodec.Proofs.Registry.WellFormed

namespace RecordCodec

inductive Expansion where
  | leaf (l : Leaf) (options : Value)
  | array (member : String) (count : Nat) (item : Expansion)
  | record (name : String) (members : List (String × Expansion))

def Leaf.Admits : Leaf → Value → Prop
  | bits c, options => ∃ l, Layout.build options c.width c.name = .ok l
  | _, _ => True

def Descriptor.Admits (d : Descriptor) (options : Value) : Prop :=
  match d with
  | .scalar t => ∀ l, t.reader = .leaf l → l.Admits options
  | .record _ => True

namespace Expansion

mutual

def size : Expansion → Nat
  | leaf l _ => l.size
  | array _ count item => count * item.size
  | record _ members => sizeAll members

def sizeAll : List (String × Expansion) → Nat
  | [] => 0
  | (_, x) :: rest => x.size + sizeAll rest

end

/-- What an expansion of a registered type satisfies. -/
inductive Sound : Expansion → Prop
  | leaf {l : Leaf} {options : Value} : l.Admits options → Sound (leaf l options)
  | array {member : String} {count : Nat} {item : Expansion} :
      2 ≤ count → item.Sound → Sound (array member count item)
  | record {name : String} {members : List (String × Expansion)} :
      members ≠ [] → (members.map Prod.fst).Nodup → (∀ m ∈ members, m.2.Sound) →
      Sound (record name members)

theorem leaf_size_pos (l : Leaf) : 0 < l.size :=
  Scalar.size_pos (.leaf l) l.size rfl

theorem size_le_sizeAll {members : List (String × Expansion)} {m : String × Expansion}
    (h : m ∈ members) : m.2.size ≤ sizeAll members := by
  induction members with
  | nil => cases h
  | cons head rest ih =>
    simp only [sizeAll]
    rcases List.mem_cons.1 h with rfl | h
    · omega
    · have := ih h
      omega

theorem Sound.size_pos {x : Expansion} (h : x.Sound) : 0 < x.size := by
  induction h with
  | @leaf l => exact leaf_size_pos l
  | array hc _ ih => exact Nat.mul_pos (by omega) ih
  | record hne _ _ ih =>
    obtain ⟨m, hm⟩ := List.exists_mem_of_ne_nil _ hne
    exact Nat.lt_of_lt_of_le (ih m hm) (size_le_sizeAll hm)

end Expansion

namespace Registry

def expandMember (reg : Registry) (expand : Descriptor → Value → Option Expansion) (m : Member) :
    Option (String × Expansion) := do
  let d ← reg.find? m.typeName
  let x ← expand d m.options
  return (m.name, if m.count = 1 then x else .array m.name m.count x)

/-- The expansion of a type with at most `nesting` types inside each other. -/
def expandWithin (reg : Registry) : Nat → Descriptor → Value → Option Expansion
  | 0, _, _ => none
  | _ + 1, .scalar t, options =>
    match t.reader with
    | .leaf l => if t.writer = some l then some (.leaf l options) else none
    | .string => none
  | nesting + 1, .record r, _ => do
    return .record r.name (← r.members.mapM (expandMember reg (expandWithin reg nesting)))

theorem exists_nestingBound (reg : Registry) : ∃ n, reg.nestingBound = n + 1 :=
  Nat.exists_eq_succ_of_ne_zero (by rw [nestingBound]; omega)

/-- The expansion of a type in the place of a member with the given options. -/
def expansion? (reg : Registry) (d : Descriptor) (options : Value) : Option Expansion :=
  reg.expandWithin reg.nestingBound d options

variable {reg : Registry} {d : Descriptor} {r : RecordType} {m : Member} {options : Value}
  {n : Nat} {x : Expansion}

theorem expandMember_eq_some {expand : Descriptor → Value → Option Expansion}
    {entry : String × Expansion} (h : reg.expandMember expand m = some entry) :
    ∃ d x, reg.find? m.typeName = some d ∧ expand d m.options = some x ∧
      entry = (m.name, if m.count = 1 then x else .array m.name m.count x) := by
  simp only [expandMember, bind, Option.bind_eq_some_iff, pure, Option.some.injEq] at h
  obtain ⟨d, hd, x, hx, rfl⟩ := h
  exact ⟨d, x, hd, hx, rfl⟩

theorem expandWithin_record (h : reg.expandWithin (n + 1) (.record r) options = some x) :
    ∃ members, x = .record r.name members ∧
      r.members.Forall₂ (fun m entry ↦ reg.expandMember (reg.expandWithin n) m = some entry)
        members := by
  simp only [expandWithin, bind, Option.bind_eq_some_iff, pure, Option.some.injEq] at h
  obtain ⟨members, hm, rfl⟩ := h
  exact ⟨members, rfl, mapM_eq_some.1 hm⟩

theorem expandWithin_scalar {t : ScalarType}
    (h : reg.expandWithin (n + 1) (.scalar t) options = some x) :
    ∃ l, t.reader = .leaf l ∧ t.writer = some l ∧ x = .leaf l options := by
  simp only [expandWithin] at h
  split at h
  · rename_i l hl
    split at h
    · rename_i hw
      cases h
      exact ⟨l, hl, hw, rfl⟩
    · contradiction
  · contradiction

theorem WellFormed.find?_leaf (h : reg.WellFormed) (l : Leaf) :
    reg.find? l.name = some (.scalar (.ofScalar (.leaf l))) := by
  have hl : standard.entries.lookup l.name = some (.scalar (.ofScalar (.leaf l))) := by
    cases l with
    | int signed size => cases signed <;> cases size <;> rfl
    | bits c => cases c <;> rfl
    | _ => rfl
  rw [find?, h.entries_eq, List.lookup_append, hl, Option.some_or]

theorem WellFormed.find?_container (h : reg.WellFormed) (c : Container) :
    reg.find? c.name = some (.scalar (.ofScalar (.leaf (.bits c)))) :=
  h.find?_leaf (.bits c)

theorem Supports.admits_of_containers
    (h : ∀ c : Container, reg.find? c.name = some (.scalar (.ofScalar (.leaf (.bits c)))))
    (hs : reg.Supports r m) (hd : reg.find? m.typeName = some d) : d.Admits m.options := by
  cases d with
  | record _ => trivial
  | scalar t =>
    intro l hl
    cases hruns : m.runs with
    | none =>
      rw [Member.options_of_none hruns]
      cases l with
      | bits c => exact ⟨_, Layout.build_none c.width c.name⟩
      | _ => trivial
    | some runs =>
      obtain ⟨c, layout, hc, hnamed, hwidth, rfl⟩ := hs.divided runs hruns
      rw [Member.options_of_some hruns]
      have hname : c.name = m.typeName := by simpa using List.find?_some hc
      rw [← hname, h c] at hd
      cases hd
      cases hl
      exact ⟨_, Layout.build_options hnamed hwidth c.name⟩

theorem Supports.admits (h : reg.WellFormed) (hs : reg.Supports r m)
    (hd : reg.find? m.typeName = some d) : d.Admits m.options :=
  hs.admits_of_containers h.find?_container hd

theorem names_of_expanded {expand : Descriptor → Value → Option Expansion} {members : List Member}
    {entries : List (String × Expansion)}
    (h : members.Forall₂ (fun m entry ↦ reg.expandMember expand m = some entry) entries) :
    entries.map Prod.fst = members.map Member.name := by
  refine map_eq_map_of_forall₂ (h.imp fun m entry hm ↦ ?_)
  obtain ⟨d, x, -, -, rfl⟩ := expandMember_eq_some hm
  rfl

theorem sizeAll_eq_totalSize {members : List Member} {entries : List (String × Expansion)}
    (h : members.Forall₂ (fun m entry ↦ (entry.2.size : Int) = m.size) entries) :
    (Expansion.sizeAll entries : Int) = RecordType.totalSize members := by
  induction h with
  | nil => rfl
  | cons hm _ ih => rw [Expansion.sizeAll, RecordType.totalSize, Int.natCast_add, hm, ih]

theorem exists_expandMember {expand : Descriptor → Value → Option Expansion}
    (hd : reg.find? m.typeName = some d) (hx : expand d m.options = some x) (hsound : x.Sound)
    (hsize : (x.size : Int) = m.elementSize) : ∃ entry,
      reg.expandMember expand m = some entry ∧ entry.2.Sound ∧ (entry.2.size : Int) = m.size := by
  refine ⟨(m.name, if m.count = 1 then x else .array m.name m.count x), ?_, ?_, ?_⟩
  · simp [expandMember, hd, hx]
  · have := m.count_pos
    split
    · exact hsound
    · exact .array (by omega) hsound
  · split
    · rename_i hc
      rw [Member.size, hc, hsize]
      simp
    · rw [Expansion.size, Member.size, Int.natCast_mul, hsize, Int.mul_comm]

theorem exists_expandMembers {expand : Descriptor → Value → Option Expansion}
    (hne : r.members ≠ []) (hmember : ∀ m ∈ r.members, ∃ entry,
      reg.expandMember expand m = some entry ∧ entry.2.Sound ∧ (entry.2.size : Int) = m.size) :
    ∃ entries, r.members.mapM (reg.expandMember expand) = some entries ∧
      (Expansion.record r.name entries).Sound ∧
      ((Expansion.record r.name entries).size : Int) = r.size := by
  obtain ⟨entries, hentries⟩ := exists_forall₂ hmember
  have hexpand := hentries.imp fun _ _ hm ↦ hm.1
  refine ⟨entries, mapM_eq_some.2 hexpand, .record ?_ ?_ ?_, ?_⟩
  · rintro rfl
    rw [List.forall₂_nil_right_iff] at hexpand
    exact hne hexpand
  · exact names_of_expanded hexpand ▸ r.nodup
  · intro entry hentry
    obtain ⟨m, -, hm⟩ := exists_of_forall₂ hentries hentry
    exact hm.2.1
  · exact sizeAll_eq_totalSize (hentries.imp fun _ _ hm ↦ hm.2.2)

theorem WellFormed.exists_expandWithin (h : reg.WellFormed) {name : String} {size : Int}
    (hd : reg.find? name = some d) (hn : reg.rank name < n) (hsize : d.size? = some size)
    (hoptions : d.Admits options) :
    ∃ x, reg.expandWithin n d options = some x ∧ x.Sound ∧ (x.size : Int) = size := by
  induction n generalizing name d options size with
  | zero => omega
  | succ n ih =>
    rcases h.find?_cases hd with ⟨s, -, -, rfl⟩ | ⟨r, hr, rfl, rfl⟩
    · cases s with
      | string => cases hsize
      | leaf l =>
        refine ⟨.leaf l options, ?_, .leaf (hoptions l rfl), ?_⟩
        · simp [expandWithin, ScalarType.ofScalar, Scalar.writer?]
        · cases hsize
          rfl
    · have hmember : ∀ m ∈ r.members, ∃ entry,
          reg.expandMember (reg.expandWithin n) m = some entry ∧ entry.2.Sound ∧
            (entry.2.size : Int) = m.size := by
        intro m hm
        have hs := h.supported r hr m hm
        obtain ⟨d, hd, hsize⟩ := hs.sized
        have hrank := hs.rank_lt
        obtain ⟨x, hx, hsound, hxsize⟩ := ih hd (by omega) hsize (hs.admits h hd)
        exact exists_expandMember hd hx hsound hxsize
      obtain ⟨entries, hentries, hsound, hxsize⟩ :=
        exists_expandMembers (h.inhabited r hr) hmember
      refine ⟨.record r.name entries, ?_, hsound, ?_⟩
      · simp [expandWithin, hentries]
      · cases hsize
        exact hxsize

theorem WellFormed.exists_expansion (h : reg.WellFormed) {name : String} {size : Int}
    (hd : reg.find? name = some d) (hsize : d.size? = some size) (hoptions : d.Admits options) :
    ∃ x, reg.expansion? d options = some x ∧ x.Sound ∧ (x.size : Int) = size := by
  have hrank := rank_lt_size (mem_names_of_find? hd)
  refine h.exists_expandWithin hd ?_ hsize hoptions
  simp only [nestingBound]
  omega

end Registry

end RecordCodec
