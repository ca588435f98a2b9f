import RecordCodec.Proofs.Codec.Locality
import RecordCodec.Proofs.Codec.Untouched
import RecordCodec.Proofs.Expansion.CharArray
import RecordCodec.Proofs.Schema.Acceptance

namespace RecordCodec

-- Powers of natural numbers are those of the core library.
attribute [local instance (high)] instPowNat

namespace Schema

theorem valueOf_lt {digits : List Char} (h : IsNumeral digits) :
    valueOf digits < 10 ^ digits.length := by
  have hlength := @Nat.ofDigits_lt_base_pow_length 10
    (digits.reverse.map fun c ↦ c.toNat - '0'.toNat) (by decide) ?_
  · rwa [List.length_map, List.length_reverse] at hlength
  · intro n hn
    obtain ⟨c, hc, rfl⟩ := List.mem_map.1 hn
    have hdigit : c.toNat ≤ 57 := UInt32.le_iff_toNat_le.1
      (of_decide_eq_true (Bool.and_eq_true_iff.1 (h.2 c (List.mem_reverse.1 hc))).2)
    change c.toNat - 48 < 10
    omega

theorem Declaration.count_isWritable {text : String} {line : Int} {d : Declaration}
    (h : Declaration.ofLine text line = .ok d) : Numeral.isWritable d.count := by
  obtain ⟨-, -, parts, shape, -, hmeans, hreadable, hholds⟩ := ofLine_eq_ok_iff.1 h
  rw [hholds.count, Numeral.isWritable, decide_eq_true_eq, Int.natAbs_natCast]
  cases hmeans with
  | single | divided => exact Nat.one_lt_pow (by decide) (by decide)
  | @array _ count _ _ hcount =>
    have hlength := hreadable count (by simp) hcount
    exact (valueOf_lt hcount).trans_le (Nat.pow_le_pow_right (by decide) hlength)

end Schema

namespace Registry

def HasWritableCounts (reg : Registry) : Prop :=
  ∀ r ∈ reg.records, ∀ m ∈ r.members, Numeral.isWritable m.count = true

theorem HasWritableCounts.compile {reg grown : Registry} {text name : String} {r : RecordType}
    (h : reg.HasWritableCounts) (hcompile : reg.compile text name = .ok (r, grown)) :
    grown.HasWritableCounts := by
  obtain ⟨-, hentries, declarations, haccepts, hdeclares⟩ := accepts_of_compile hcompile
  intro t ht m hm
  rw [records_of_added hentries, List.mem_append, List.mem_singleton] at ht
  rcases ht with ht | rfl
  · exact h t ht m hm
  · obtain ⟨d, hd, hdeclared⟩ := exists_of_forall₂ hdeclares hm
    obtain ⟨l, -, hl⟩ := exists_of_forall₂ haccepts.lists hd
    rw [hdeclared.count]
    exact Schema.Declaration.count_isWritable hl

theorem hasWritableCounts_attemptAll (schemas : List (String × String)) :
    (standard.attemptAll schemas).HasWritableCounts :=
  attemptAll_invariant (fun _ _ _ _ _ hcompile h ↦ h.compile hcompile) schemas
    fun _ h ↦ absurd h List.not_mem_nil

end Registry

theorem Leaf.charByte_failsWith (v : Value) : FailsWith (fun e ↦ e.causeKind = .encode ∧
    (v.isWritable = true → e.isWritable = true)) (charByte v) := by
  unfold charByte
  split
  · split
    · exact .ok _
    · exact .error ⟨rfl, fun _ ↦ rfl⟩
    · exact .error ⟨rfl, id⟩
  · split
    · exact .ok _
    · exact .error ⟨rfl, id⟩
  · exact .ok _
  · exact .error ⟨rfl, id⟩

namespace Codec

open Expansion Registry Leaf

section Member

variable {reg : Registry} {record : String} {r : RecordType} {m : Member} {o : Int}
  {x : Expansion}

theorem exists_withCharArray (hreg : reg.WellFormed) (hr : r ∈ reg.records) (hm : m ∈ r.members)
    (hchar : m.typeName = "char") (hcount : 2 ≤ m.count) (ho : (m.name, o) ∈ r.offsets)
    (hx : reg.expansion? (.record r) .none = some x) :
    ∃ front rest, x = withCharArray r.name m.name m.count front rest ∧ o = sizeAll front ∧
      (front ++ (m.name, charArray m.name m.count) :: rest).map Prod.fst =
        r.members.map Member.name := by
  obtain ⟨entries, rfl, hentries⟩ := hreg.exists_expands hr hx
  have hnames : entries.map Prod.fst = r.members.map Member.name :=
    map_eq_map_of_forall₂ (hentries.imp fun _ _ hm ↦ hm.name_eq)
  obtain ⟨front, rest, hsplit, rfl⟩ := RecordType.exists_front hm ho
  obtain ⟨front', entry, rest', rfl, hfront, hentry⟩ := exists_append_of_forall₂ (hsplit ▸ hentries)
  have hoffset := sizeAll_eq_totalSize (hfront.imp fun _ _ hm ↦ hm.size_eq)
  obtain ⟨y, hy, -, rfl⟩ := hentry
  obtain ⟨d, hd, -, hy⟩ := hy.find?
  have hruns : m.runs = none := by
    cases hruns : m.runs with
    | none => rfl
    | some runs =>
      obtain ⟨c, l, hc, -⟩ := (hreg.supported r hr m hm).divided runs hruns
      rw [hchar] at hc
      cases hc
  have hleaf : y = leaf .char .none := by
    have hfound := hreg.find?_leaf .char
    rw [hchar] at hd
    cases hd.symm.trans hfound
    obtain ⟨n, hn⟩ := reg.exists_nestingBound
    rw [expansion?, hn, Member.options_of_none hruns] at hy
    exact (Option.some.inj hy).symm
  subst hleaf
  rw [if_neg (show m.count ≠ 1 by omega)] at hnames ⊢
  exact ⟨front', rest', rfl, hoffset.symm, hnames⟩

end Member

def labelSchemas : List (String × String) :=
  [("bool on\nchar[3] code", "Label")]

def isLabelExpansion : Expansion → Bool
  | .record "Label" [("on", .leaf .bool .none), ("code", .array "code" 3 (.leaf .char .none))] =>
    true
  | _ => false

def isLabelType (reg : Registry) : Descriptor → Bool
  | .record r => r.size == 7 && r.offsets == [("on", 0), ("code", 4)] &&
    (r.members.any fun m ↦ m.name == "code" && m.typeName == "char" && m.count == 3) &&
    (reg.expansion? (.record r) .none).any isLabelExpansion
  | .scalar _ => false

theorem find?_label : ∃ r, (standard.attemptAll labelSchemas).find? "Label" = some (.record r) ∧
    r.size = 7 ∧ (∃ m ∈ r.members, m.name = "code" ∧ m.typeName = "char" ∧ m.count = 3 ∧
      (m.name, 4) ∈ r.offsets) ∧
    (standard.attemptAll labelSchemas).expansion? (.record r) .none =
      some (.record "Label" [("on", .leaf .bool .none), ("code", charArray "code" 3)]) := by
  have h : ((standard.attemptAll labelSchemas).find? "Label").any
      (isLabelType (standard.attemptAll labelSchemas)) = true := by
    decide +kernel
  obtain ⟨d, hd, hlabel⟩ := (Option.any_eq_true _ _).1 h
  cases d with
  | scalar t => cases hlabel
  | record r =>
    simp only [isLabelType, Bool.and_eq_true, beq_iff_eq, List.any_eq_true] at hlabel
    obtain ⟨⟨⟨hsize, hoffsets⟩, m, hm, ⟨hname, htype⟩, hcount⟩, hexpansion⟩ := hlabel
    obtain ⟨x, hx, hlabel⟩ := (Option.any_eq_true _ _).1 hexpansion
    refine ⟨r, hd, hsize, ⟨m, hm, hname, htype, hcount, by rw [hname, hoffsets]; decide⟩, ?_⟩
    rw [hx]
    unfold isLabelExpansion at hlabel
    split at hlabel
    · rfl
    · cases hlabel

def label (code : Value) : Source :=
  .value (.dict [("on", .bool true), ("code", code)])

end Codec

end RecordCodec
