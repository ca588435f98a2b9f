import RecordCodec.Proofs.Expansion.Progress
import RecordCodec.Proofs.Leaf.Rejection
import RecordCodec.Proofs.Registry.Grounded
import Mathlib.Data.List.Nodup

namespace RecordCodec

namespace Registry

/-- The expansion that a type would have if all leaves in it could be written, with at most
`nesting` types inside each other. -/
def outlineWithin (reg : Registry) : Nat → Descriptor → Value → Option Expansion
  | 0, _, _ => none
  | _ + 1, .scalar t, options =>
    match t.reader with
    | .leaf l => some (.leaf l options)
    | .string => none
  | nesting + 1, .record r, _ => do
    return .record r.name (← r.members.mapM (expandMember reg (outlineWithin reg nesting)))

def outline? (reg : Registry) (d : Descriptor) (options : Value) : Option Expansion :=
  reg.outlineWithin reg.nestingBound d options

variable {reg : Registry} {name : String} {d : Descriptor} {r : RecordType} {options : Value}
  {n : Nat} {x : Expansion} {size : Int}

theorem outlineWithin_record (h : reg.outlineWithin (n + 1) (.record r) options = some x) :
    ∃ members, x = .record r.name members ∧
      r.members.Forall₂ (fun m entry ↦ reg.expandMember (reg.outlineWithin n) m = some entry)
        members := by
  simp only [outlineWithin, bind, Option.bind_eq_some_iff, pure, Option.some.injEq] at h
  obtain ⟨members, hm, rfl⟩ := h
  exact ⟨members, rfl, mapM_eq_some.1 hm⟩

theorem outlineWithin_scalar {t : ScalarType}
    (h : reg.outlineWithin (n + 1) (.scalar t) options = some x) :
    ∃ l, t.reader = .leaf l ∧ x = .leaf l options := by
  simp only [outlineWithin] at h
  split at h
  · rename_i l hl
    cases h
    exact ⟨l, hl, rfl⟩
  · cases h

theorem Grounded.exists_outlineWithin (h : reg.Grounded) (hd : reg.find? name = some d)
    (hn : reg.rank name < n) (hsize : d.size? = some size) (hoptions : d.Admits options) :
    ∃ x, reg.outlineWithin n d options = some x ∧ x.Sound ∧ (x.size : Int) = size := by
  induction n generalizing name d options size with
  | zero => omega
  | succ n ih =>
    cases d with
    | scalar t =>
      rw [Descriptor.size?_scalar, Option.map_eq_some_iff] at hsize
      obtain ⟨k, hk, rfl⟩ := hsize
      rcases h.scalar hd with rfl | ⟨l, hl⟩
      · cases hk
      · rw [hl.size_eq] at hk
        cases hk
        refine ⟨.leaf l options, ?_, .leaf (hoptions l hl.reader_eq), rfl⟩
        rw [outlineWithin, hl.reader_eq]
    | record r =>
      obtain ⟨entries, hentries, hsound, hxsize⟩ :=
        exists_expandMembers (h.inhabited hd) fun m hm ↦ by
          have hs := h.supported hd m hm
          obtain ⟨d', hd', hsize'⟩ := hs.sized
          have hrank := hs.rank_lt
          rw [h.named hd] at hrank
          obtain ⟨x, hx, hsound, hxsize⟩ :=
            ih hd' (by omega) hsize' (hs.admits_of_containers h.container hd')
          exact exists_expandMember hd' hx hsound hxsize
      refine ⟨.record r.name entries, ?_, hsound, ?_⟩
      · simp [outlineWithin, hentries]
      · cases hsize
        exact hxsize

theorem Grounded.exists_outline (h : reg.Grounded) (hd : reg.find? name = some d)
    (hsize : d.size? = some size) (hoptions : d.Admits options) :
    ∃ x, reg.outline? d options = some x ∧ x.Sound ∧ (x.size : Int) = size := by
  have hrank := rank_lt_size (mem_names_of_find? hd)
  refine h.exists_outlineWithin hd ?_ hsize hoptions
  simp only [nestingBound]
  omega

/-- The scalar type of what a path leads to in a value of a type, where the elements of an array are
of the type of its member. -/
def scalarAt? (reg : Registry) : String → List Expansion.Step → Option ScalarType
  | type, [] =>
    match reg.find? type with
    | some (.scalar t) => some t
    | _ => none
  | type, .member name :: path =>
    match reg.find? type with
    | some (.record r) =>
      (r.members.find? fun m ↦ m.name == name).bind fun m ↦ reg.scalarAt? m.typeName path
    | _ => none
  | type, .element .. :: path => reg.scalarAt? type path

theorem scalarAt?_nil {t : ScalarType} (h : reg.find? name = some (.scalar t)) :
    reg.scalarAt? name [] = some t := by
  rw [scalarAt?, h]

theorem scalarAt?_member (h : reg.find? name = some (.record r)) {m : Member} (hm : m ∈ r.members)
    (path : List Expansion.Step) :
    reg.scalarAt? name (.member m.name :: path) = reg.scalarAt? m.typeName path := by
  have hfind : (r.members.find? fun n ↦ n.name == m.name) = some m := by
    cases hn : r.members.find? fun n ↦ n.name == m.name with
    | none => exact absurd (beq_self_eq_true m.name) (List.find?_eq_none.1 hn m hm)
    | some n =>
      have hname : n.name = m.name := by simpa using List.find?_some hn
      rw [List.inj_on_of_nodup_map r.nodup (List.mem_of_find?_eq_some hn) hm hname]
  simp only [scalarAt?, h, hfind, Option.bind_some]

end Registry

namespace Expansion

open Registry

section Types

variable (reg : Registry) (order : ByteOrder) (type : String)

/-- Leaves whose types have a writer have their encodings. -/
def supplied : Encoder := fun path l options data s ↦
  if (reg.scalarAt? type path).bind ScalarType.writer = some l then
    l.encoding? order options data s
  else none

/-- A leaf whose type has no writer is to be blamed for saying so, and keeps its bytes. For another
mismatch no leaf is to be blamed. -/
def withheld : Blame := fun path _ _ _ _ e left ↦
  (∃ t, reg.scalarAt? type path = some t ∧ t.writer = none ∧ e = .noEncoder t.name ∧ left = []) ∨
    e.causeKind ≠ .typeMismatch

theorem steady_supplied : (supplied reg order type).Steady where
  eq_of_length_eq path l options data data' s hs h := by
    rw [supplied, supplied, Leaf.encoding?_of_length_eq hs h]
  length_eq h := Leaf.length_encoding? (Option.ite_none_right_eq_some.1 h).2

theorem covers_withheld : (withheld reg type).Covers where
  steady _ _ h := h
  absent he := .inr (by rw [he]; exact nofun)

theorem explains_withheld : (withheld reg type).Explains order := by
  intro path l options data s start ha hfit _ e left _ hrun
  refine .inr fun hmismatch ↦ ?_
  have hreports := Leaf.write_reports ha hfit hrun
  cases hwide : l.overflow? data s with
  | none =>
    rw [hwide] at hreports
    cases hreports.symm.trans hmismatch
  | some wide =>
    rw [hwide] at hreports
    cases hreports
    cases (Leaf.causeKind_of_overflow? hwide).symm.trans hmismatch

variable {reg type} {r : RecordType} {m : Member}

theorem supplied_inside_member (hr : reg.find? type = some (.record r)) (hm : m ∈ r.members) :
    (supplied reg order type).inside (.member m.name) = supplied reg order m.typeName := by
  funext path l options data s
  rw [Encoder.inside, supplied, supplied, scalarAt?_member hr hm]

theorem withheld_inside_member (hr : reg.find? type = some (.record r)) (hm : m ∈ r.members) :
    (withheld reg type).inside (.member m.name) = withheld reg m.typeName := by
  funext path l options data part e left
  rw [Blame.inside, withheld, withheld, scalarAt?_member hr hm]

theorem supplied_at_eq_some {data block : Bytes} {s : Source} {place : Place}
    (h : (supplied reg order type).At data s place = some block) :
    (∃ t, reg.scalarAt? type place.path = some t ∧ t.writer = some place.leaf) ∧
      place.encoding? order data s = some block := by
  obtain ⟨part, hpart, h⟩ := Option.bind_eq_some_iff.1 h
  obtain ⟨hwriter, hblock⟩ := Option.ite_none_right_eq_some.1 h
  exact ⟨Option.bind_eq_some_iff.1 hwriter, Option.bind_eq_some_iff.2 ⟨part, hpart, hblock⟩⟩

end Types

variable {reg : Registry} {order : ByteOrder} {type : String} {data : Bytes} {s : Source}
  {start : Nat}

/-- How far the writing of a type comes, of whose leaves only those with a writer are written. -/
abbrev Supplies (reg : Registry) (order : ByteOrder) (type : String) (places : List Place)
    (data : Bytes) (s : Source) (start : Nat) (action : WriteM Nat) : Prop :=
  Progress ((supplied reg order type).At data s) ((withheld reg type).At data s) places data start
    (action.run data)

section Members

variable {item : Descriptor → Value → Source → Nat → WriteM Nat}
  {expand : Descriptor → Value → Option Expansion}
  (hitem : ∀ name d options x, reg.find? name = some d → expand d options = some x → x.Sound →
    ∀ data s start, start + x.size ≤ data.length →
      Supplies reg order name x.places data s start (item d options s start))
  {r : RecordType} (hr : reg.find? type = some (.record r))
  {sources : List (String × Source)} (hsources : s.entries? = some sources)
include hitem hr hsources

theorem writeMember_progress {m : Member} (hm : m ∈ r.members) {entry : String × Expansion}
    (h : reg.expandMember expand m = some entry) (hsound : entry.2.Sound) (offset : Nat)
    (hfit : start + entry.2.size ≤ data.length) :
    Supplies reg order type (entry.2.places.map (.under (.member entry.1) offset)) data s start
      (Codec.writeMember reg item r.name sources m start) := by
  obtain ⟨d, x, hd, hx, rfl⟩ := expandMember_eq_some h
  rw [Codec.writeMember]
  cases ht : sources.lookup m.name with
  | none => exact member_fails (covers_withheld reg type) hsound hsources ht rfl
  | some t =>
    refine member_progress hsources ht ?_
    rw [supplied_inside_member order hr hm, withheld_inside_member hr hm]
    simp only [Codec.lookup_of_find? hd, Codec.outcome, pure_bind]
    by_cases hc : m.count = 1
    · simp only [if_pos hc] at hsound hfit ⊢
      exact hitem _ d m.options x hd hx hsound data t start hfit
    · simp only [if_neg hc] at hsound hfit ⊢
      cases hsound with
      | array hcount hxsound =>
        exact array_progress (steady_supplied reg order m.typeName) (covers_withheld reg m.typeName)
          (.array hcount hxsound) (fun _ ↦ hitem _ d m.options x hd hx hxsound) hfit

theorem writeMembers_progress_of_expandMember {members : List Member}
    (hmembers : ∀ m ∈ members, m ∈ r.members) {entries : List (String × Expansion)}
    (h : members.Forall₂ (fun m entry ↦ reg.expandMember expand m = some entry) entries)
    (hsound : ∀ entry ∈ entries, entry.2.Sound) (offset : Nat)
    (hfit : start + sizeAll entries ≤ data.length) :
    Supplies reg order type (placesFrom offset entries) data s start
      (Codec.writeMembers (Codec.writeMember reg item r.name sources) members start) := by
  induction h generalizing offset data start with
  | nil => exact .nil _ _ data start
  | @cons m entry members entries hentry _ ih =>
    have hfit' := hfit
    rw [sizeAll] at hfit'
    obtain ⟨hm, hmembers⟩ := List.forall_mem_cons.1 hmembers
    obtain ⟨hfirst, hrest⟩ := List.forall_mem_cons.1 hsound
    rw [Supplies, Codec.writeMembers]
    refine members_progress (steady_supplied reg order type) (covers_withheld reg type) hfit ?_
      fun after hafter ↦ ?_
    · exact writeMember_progress hitem hr hsources hm hentry hfirst offset (by omega)
    · exact ih hmembers hrest _ (by omega)

end Members

/-- Writing a value of a known type writes the leaves that its outline has, up to the first one whose
type has no writer. -/
theorem writeNested_progress (hreg : reg.Grounded) {n : Nat} {d : Descriptor} {options : Value}
    {x : Expansion} (hd : reg.find? type = some d) (hx : reg.outlineWithin n d options = some x)
    (hsound : x.Sound) (hfit : start + x.size ≤ data.length) :
    Supplies reg order type x.places data s start
      (Codec.writeNested reg order n d options s start) := by
  induction n generalizing type d options x data s start with
  | zero => cases hx
  | succ n ih =>
    cases d with
    | scalar t =>
      obtain ⟨l, hl, rfl⟩ := outlineWithin_scalar hx
      have hscalar := scalarAt?_nil hd
      rw [size] at hfit
      rw [Codec.writeNested]
      rcases hreg.scalar hd with rfl | ⟨l', hfixed⟩
      · cases hl
      · cases hl.symm.trans hfixed.reader_eq
        cases hsound with
        | leaf ha =>
          rcases hfixed.writer_eq with hwriter | hwriter
          · rw [hwriter]
            refine leaf_progress (if_pos ?_) hfit (explains_withheld reg order type ha hfit)
            rw [hscalar, Option.bind_some, hwriter]
          · rw [hwriter, places]
            have hblame : (withheld reg type).At data s ⟨0, l, options, []⟩ (.noEncoder t.name) [] :=
              .inl ⟨t, hscalar, hwriter, rfl, rfl⟩
            exact .fail (List.cons_ne_nil _ _) (List.forall_mem_singleton.2 hblame)
    | record r =>
      obtain ⟨entries, rfl, hentries⟩ := outlineWithin_record hx
      rw [Codec.writeNested]
      cases hsources : s.entries? with
      | none => exact entries_fail (covers_withheld reg type) hsound rfl hsources
      | some sources =>
        cases hsound with
        | record _ _ hmembers =>
          rw [size] at hfit
          rw [places]
          refine writeMembers_progress_of_expandMember ?_ hd hsources (fun _ hm ↦ hm) hentries
            hmembers 0 hfit
          intro name d options x hd hx hsound data s start hfit
          exact ih hd hx hsound hfit

end Expansion

end RecordCodec
