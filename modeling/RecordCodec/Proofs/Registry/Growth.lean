import RecordCodec.Proofs.Bitfield.Layout
import RecordCodec.Schema.Compile

namespace RecordCodec

theorem Registry.lookup_eq_ok_iff {reg : Registry} {name : String} {d : Descriptor} :
    reg.lookup name = .ok d ↔ reg.find? name = some d := by
  rw [lookup]
  cases reg.find? name with
  | none => simp
  | some d' => simp

namespace Schema.Declaration

variable {d : Declaration} {reg : Registry}

theorem layoutOf_eq_ok_iff {runs : List (Value × Value)} {l : Layout} :
    d.layoutOf runs = .ok l ↔ ∃ c, Container.ofName? d.typeName = some c ∧
      Layout.ofPairs runs = .ok l ∧ l.width ≤ c.width := by
  rw [layoutOf]
  constructor
  · intro h
    split at h
    · cases h
    · rename_i c hc
      obtain ⟨l', hl', h⟩ := bind_eq_ok.1 h
      obtain ⟨fitting, hfit, h⟩ := bind_eq_ok.1 h
      cases h
      rw [Layout.fit] at hfit
      split at hfit
      · rename_i hwidth
        cases hfit
        exact ⟨c, hc, hl', Int.ofNat_le.1 hwidth⟩
      · cases hfit
  · rintro ⟨c, hc, hl, hwidth⟩
    simp only [hc, hl, ok_bind, Layout.fit_of_le (Int.ofNat_le.2 hwidth)]
    rfl

theorem member_eq_ok_iff {m : Member} : d.member reg = .ok m ↔
    d.typeName ≠ Scalar.string.name ∧ ∃ descriptor size layout,
      reg.find? d.typeName = some descriptor ∧ descriptor.size? = some size ∧
      d.runPairs.mapM d.layoutOf = .ok layout ∧
      m = ⟨d.typeName, d.name, size, d.count, layout.map Layout.pairs, d.count_pos⟩ := by
  rw [member, memberWith]
  by_cases hstring : d.typeName = Scalar.string.name
  · rw [if_pos hstring]
    exact iff_of_false nofun fun h ↦ h.1 hstring
  rw [if_neg hstring, bind_eq_ok]
  constructor
  · rintro ⟨descriptor, hd, h⟩
    split at h
    · cases h
    · rename_i size hsize
      obtain ⟨layout, hl, h⟩ := bind_eq_ok.1 h
      cases h
      exact ⟨hstring, descriptor, size, layout, Registry.lookup_eq_ok_iff.1 hd, hsize, hl, rfl⟩
  · rintro ⟨-, descriptor, size, layout, hd, hsize, hl, rfl⟩
    refine ⟨descriptor, Registry.lookup_eq_ok_iff.2 hd, ?_⟩
    simp only [hsize, hl, ok_bind]
    rfl

theorem layoutOf_runPairs_eq_ok {layout : Option Layout}
    (h : d.runPairs.mapM d.layoutOf = .ok layout) :
    ∀ l ∈ layout, ∃ runs ∈ d.runPairs, d.layoutOf runs = .ok l := by
  rintro l rfl
  cases hruns : d.runPairs with
  | none => rw [hruns] at h; cases h
  | some runs =>
    rw [hruns] at h
    obtain ⟨l', hl', hlayout⟩ := map_eq_ok.1 h
    cases hlayout
    exact ⟨runs, rfl, hl'⟩

theorem member_eq_ok {m : Member} (h : d.member reg = .ok m) :
    m.name = d.name ∧ m.typeName = d.typeName ∧ m.count = d.count ∧
      m.typeName ≠ Scalar.string.name ∧
      (∃ descriptor, reg.find? m.typeName = some descriptor ∧
        descriptor.size? = some m.elementSize) ∧
      ∀ runs ∈ m.runs, ∃ c l, Container.ofName? m.typeName = some c ∧ Layout.IsNamed l ∧
        l.width ≤ c.width ∧ runs = l.pairs := by
  obtain ⟨hstring, descriptor, size, layout, hd, hsize, hl, rfl⟩ := member_eq_ok_iff.1 h
  refine ⟨rfl, rfl, rfl, hstring, ⟨descriptor, hd, hsize⟩, fun runs hruns ↦ ?_⟩
  obtain ⟨l, hlayout, rfl⟩ := Option.map_eq_some_iff.1 hruns
  obtain ⟨runs, -, hruns⟩ := layoutOf_runPairs_eq_ok hl l hlayout
  obtain ⟨c, hc, hpairs, hwidth⟩ := layoutOf_eq_ok_iff.1 hruns
  exact ⟨c, l, hc, (Layout.ofPairs_eq_ok_iff.1 hpairs).1, hwidth, rfl⟩

theorem membersOf_eq_ok {record : String} {seen : List String} {declarations : List Declaration}
    {members : List Member} (h : membersOf reg record seen declarations = .ok members) :
    declarations.Forall₂ (fun d m ↦ d.member reg = .ok m) members := by
  induction declarations generalizing seen members with
  | nil => cases h; exact .nil
  | cons d rest ih =>
    simp only [membersOf] at h
    split at h
    · contradiction
    · obtain ⟨m, hm, h⟩ := bind_eq_ok.1 h
      obtain ⟨ms, hms, h⟩ := bind_eq_ok.1 h
      cases h
      exact .cons hm (ih hms)

end Schema.Declaration

namespace RecordType

theorem make_eq_ok {name : String} {members : List Member} {r : RecordType}
    (h : make (.text name) members = .ok r) : r.name = name ∧ r.members = members := by
  simp only [make] at h
  split at h
  · split at h
    · cases h; exact ⟨rfl, rfl⟩
    · contradiction
  · contradiction

end RecordType

namespace Registry

theorem register_eq_ok {reg grown : Registry} {name : String} {d : Descriptor}
    (h : reg.register name (.descriptor d) = .ok grown) :
    name ∉ reg.names ∧ d.name = name ∧ grown.entries = reg.entries ++ [(name, d)] := by
  simp only [register] at h
  split at h
  · contradiction
  · split at h
    · contradiction
    · rename_i hname
      split at h
      · rename_i hd
        cases h
        exact ⟨by simpa [contains] using hname, hd, rfl⟩
      · contradiction

theorem compile_eq_ok {reg grown : Registry} {text name : String} {r : RecordType}
    (h : reg.compile text name = .ok (r, grown)) :
    name ∉ reg.names ∧ r.name = name ∧ grown.entries = reg.entries ++ [(name, .record r)] ∧
      ∃ declarations, Schema.parse text = .ok declarations ∧ declarations ≠ [] ∧
        declarations.Forall₂ (fun d m ↦ d.member reg = .ok m) r.members := by
  simp only [compile] at h
  split at h
  · contradiction
  · split at h
    · contradiction
    · obtain ⟨declarations, hparse, h⟩ := bind_eq_ok.1 h
      split at h
      · contradiction
      · rename_i hne
        obtain ⟨members, hmembers, h⟩ := bind_eq_ok.1 h
        obtain ⟨record, hrecord, h⟩ := bind_eq_ok.1 h
        obtain ⟨grown', hgrown, h⟩ := bind_eq_ok.1 h
        cases h
        obtain ⟨hr, hm⟩ := RecordType.make_eq_ok hrecord
        obtain ⟨hname, -, hentries⟩ := register_eq_ok hgrown
        refine ⟨hname, hr, hentries, declarations, hparse, by simpa using hne, ?_⟩
        rw [hm]
        exact Schema.Declaration.membersOf_eq_ok hmembers

/-- The registry after an attempt to compile a schema; one that fails changes nothing. -/
def attempt (reg : Registry) (schema : String × String) : Registry :=
  match reg.compile schema.1 schema.2 with
  | .ok (_, grown) => grown
  | .error _ => reg

def attemptAll (reg : Registry) (schemas : List (String × String)) : Registry :=
  schemas.foldl attempt reg

theorem attemptAll_invariant {P : Registry → Prop}
    (step : ∀ reg text name r grown, reg.compile text name = .ok (r, grown) → P reg → P grown)
    (schemas : List (String × String)) {reg : Registry} (h : P reg) :
    P (reg.attemptAll schemas) := by
  induction schemas generalizing reg with
  | nil => exact h
  | cons schema rest ih =>
    apply ih
    simp only [attempt]
    split
    · rename_i hcompile
      exact step _ _ _ _ _ hcompile h
    · exact h

end Registry

end RecordCodec
