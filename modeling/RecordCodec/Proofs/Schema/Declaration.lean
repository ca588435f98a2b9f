import RecordCodec.Proofs.Schema.Grammar

namespace RecordCodec.Schema

namespace Shape

def typeName : Shape → String
  | single type _ | array type _ _ | divided type _ _ => type

def name : Shape → String
  | single _ name | array _ _ name | divided _ _ name => name

def count : Shape → Nat
  | array _ count _ => count
  | _ => 1

def runs? : Shape → Option (List RunSpec)
  | divided _ runs _ => some runs
  | _ => none

end Shape

def IsReadable (parts : List (List Char)) : Prop :=
  ∀ part ∈ parts, IsNumeral part → part.length ≤ Numeral.maxDecimalDigits

namespace Declaration

/-- A declaration with the content of a shape. -/
structure Holds (d : Declaration) (shape : Shape) : Prop where
  typeName : d.typeName = shape.typeName
  name : d.name = shape.name
  count : d.count = shape.count
  runs : d.runs = shape.runs?

variable {text : String} {line : Int} {shape : Shape} {parts : List (List Char)} {d : Declaration}

theorem ofShape_eq_ok_iff :
    ofShape text line shape = .ok d ↔ d.Holds shape ∧ d.line = line ∧ d.text = text := by
  constructor
  · intro h
    cases shape with
    | array type count name =>
      rw [ofShape] at h
      split at h
      · cases h
        exact ⟨⟨rfl, rfl, rfl, rfl⟩, rfl, rfl⟩
      · cases h
    | _ => cases h; exact ⟨⟨rfl, rfl, rfl, rfl⟩, rfl, rfl⟩
  · rintro ⟨⟨htype, hname, hcount, hruns⟩, hline, htext⟩
    obtain ⟨type, name, count, runs, line', text', hpos⟩ := d
    subst htype hname hcount hruns hline htext
    cases shape with
    | array type count name => exact dif_pos hpos
    | _ => rfl

theorem ofShape_eq_error {e : Error} (h : ofShape text line shape = .error e) :
    shape.count = 0 ∧ e = .arrayLength line 0 text := by
  cases shape with
  | array type count name =>
    rw [ofShape] at h
    split at h
    · cases h
    · rename_i hcount
      obtain rfl : count = 0 := by omega
      cases h
      exact ⟨rfl, rfl⟩
  | _ => cases h

theorem exists_ofShape_eq_ok_iff : (∃ d, ofShape text line shape = .ok d) ↔ 0 < shape.count := by
  constructor
  · rintro ⟨d, hd⟩
    obtain ⟨hholds, -⟩ := ofShape_eq_ok_iff.1 hd
    rw [← hholds.count]
    exact d.count_pos
  · intro hpos
    cases h : ofShape text line shape with
    | ok d => exact ⟨d, rfl⟩
    | error e =>
      have := (ofShape_eq_error h).1
      omega

open Token

theorem all_isReadable_iff {tokens : List Token} (h : tokens.Forall₂ Spells parts) :
    tokens.all isReadable = true ↔ IsReadable parts := by
  induction h with
  | nil => simp [IsReadable]
  | @cons token part tokens parts hpart _ ih =>
    have hhead : token.isReadable = true ↔
        (IsNumeral part → part.length ≤ Numeral.maxDecimalDigits) := by
      cases hpart with
      | word h => exact iff_of_true rfl fun hn ↦ absurd hn (not_isNumeral_of_isName (.plain h))
      | marked h => exact iff_of_true rfl fun hn ↦ absurd hn (not_isNumeral_of_isName (.marked h))
      | number h => simp [isReadable, h]
      | symbol h => exact iff_of_true rfl fun hn ↦ absurd hn (not_isNumeral_of_isSymbol h)
    rw [List.all_cons, Bool.and_eq_true, hhead, ih]
    simp [IsReadable]

theorem ofLine_of_means (hcut : Cut parts text.toList) (hmeans : Means parts shape)
    (hreadable : IsReadable parts) : ofLine text line = ofShape text line shape := by
  obtain ⟨tokens, hspells⟩ := Shape.exists_spells_of_means hmeans
  simp only [ofLine, scan_of_cut hcut hspells, Shape.ofTokens_of_means hspells hmeans,
    (all_isReadable_iff hspells).2 hreadable, if_true]

theorem ofLine_of_not_isReadable (hcut : Cut parts text.toList) (hmeans : Means parts shape)
    (hreadable : ¬ IsReadable parts) : ofLine text line = .error .numeralTooLong := by
  obtain ⟨tokens, hspells⟩ := Shape.exists_spells_of_means hmeans
  simp only [ofLine, scan_of_cut hcut hspells, Shape.ofTokens_of_means hspells hmeans,
    if_neg ((all_isReadable_iff hspells).not.2 hreadable)]

theorem ofLine_of_not_means (h : ¬ ∃ parts shape, Cut parts text.toList ∧ Means parts shape) :
    ofLine text line = .error (.malformedLine line text) := by
  rw [ofLine]
  split
  · rfl
  · rename_i tokens htokens
    obtain ⟨parts, hcut, hspells⟩ := scan_eq_some_iff.1 htokens
    split
    · rfl
    · rename_i shape hshape
      exact absurd ⟨parts, shape, hcut, (Shape.ofTokens_eq_some_iff hspells).1 hshape⟩ h

/-- A refusal whose message begins with the number of the line and shows its text. Only a line
number that is itself too long keeps the message from being formed. -/
def Refuses (line : Int) (text : String) (e : Error) : Prop :=
  e.causeKind = .definition ∧
  (∃ front back, e.wording? = some ("line " ++ toString line ++ ": " ++ front ++ text ++ back)) ∧
  (Numeral.isWritable line = true → e.kind = .definition ∧ e.message? = e.wording?)

theorem refuses_malformedLine (line : Int) (text : String) :
    Refuses line text (.malformedLine line text) := by
  refine ⟨rfl, ⟨"Invalid field declaration '", "'", ?_⟩, fun h ↦ ⟨if_pos h, if_pos h⟩⟩
  simp only [Error.wording?, Option.some_inj, String.append_assoc]
  rfl

theorem refuses_arrayLength (line : Int) (text : String) :
    Refuses line text (.arrayLength line 0 text) := by
  refine ⟨rfl, ⟨"Array length must be a positive integer, got " ++ toString 0 ++ " in '", "'", ?_⟩,
    fun h ↦ ⟨if_pos h, if_pos h⟩⟩
  simp only [Error.wording?, Option.some_inj, String.append_assoc]
  rfl

theorem ofLine_eq_ok_iff : ofLine text line = .ok d ↔ d.line = line ∧ d.text = text ∧
    ∃ parts shape, Cut parts text.toList ∧ Means parts shape ∧ IsReadable parts ∧
      d.Holds shape := by
  constructor
  · intro h
    by_cases hmeans : ∃ parts shape, Cut parts text.toList ∧ Means parts shape
    · obtain ⟨parts, shape, hcut, hmeans⟩ := hmeans
      by_cases hreadable : IsReadable parts
      · rw [ofLine_of_means hcut hmeans hreadable] at h
        obtain ⟨hholds, hline, htext⟩ := ofShape_eq_ok_iff.1 h
        exact ⟨hline, htext, parts, shape, hcut, hmeans, hreadable, hholds⟩
      · rw [ofLine_of_not_isReadable hcut hmeans hreadable] at h
        cases h
    · rw [ofLine_of_not_means hmeans] at h
      cases h
  · rintro ⟨hline, htext, parts, shape, hcut, hmeans, hreadable, hholds⟩
    rw [ofLine_of_means hcut hmeans hreadable]
    exact ofShape_eq_ok_iff.2 ⟨hholds, hline, htext⟩

theorem ofLine_eq_error {e : Error} (h : ofLine text line = .error e) :
    (e = .numeralTooLong ∧
      ∃ parts shape, Cut parts text.toList ∧ Means parts shape ∧ ¬ IsReadable parts) ∨
    (Refuses line text e ∧
      ∀ parts shape, Cut parts text.toList → Means parts shape → IsReadable parts) := by
  by_cases hlong : ∃ parts shape, Cut parts text.toList ∧ Means parts shape ∧ ¬ IsReadable parts
  · obtain ⟨parts, shape, hcut, hmeans, hreadable⟩ := hlong
    rw [ofLine_of_not_isReadable hcut hmeans hreadable] at h
    cases h
    exact .inl ⟨rfl, parts, shape, hcut, hmeans, hreadable⟩
  · push Not at hlong
    refine .inr ⟨?_, hlong⟩
    by_cases hmeans : ∃ parts shape, Cut parts text.toList ∧ Means parts shape
    · obtain ⟨parts, shape, hcut, hmeans⟩ := hmeans
      rw [ofLine_of_means hcut hmeans (hlong parts shape hcut hmeans)] at h
      obtain ⟨-, rfl⟩ := ofShape_eq_error h
      exact refuses_arrayLength line text
    · rw [ofLine_of_not_means hmeans] at h
      cases h
      exact refuses_malformedLine line text

/-- A line is declared exactly if it has a cut whose parts have a meaning, of one element at least
and without numbers that are too long. Anything else is refused with the line's number and text,
unless only the length of a number is at fault. -/
theorem ofLine_follows_grammar (text : String) (line : Int) :
    (∀ d, ofLine text line = .ok d ↔ d.line = line ∧ d.text = text ∧
      ∃ parts shape, Cut parts text.toList ∧ Means parts shape ∧ IsReadable parts ∧
        d.Holds shape) ∧
    ((∃ d, ofLine text line = .ok d) ↔
      ∃ parts shape, Cut parts text.toList ∧ Means parts shape ∧ IsReadable parts ∧
        0 < shape.count) ∧
    ∀ e, ofLine text line = .error e →
      (e = .numeralTooLong ∧
        ∃ parts shape, Cut parts text.toList ∧ Means parts shape ∧ ¬ IsReadable parts) ∨
      (Refuses line text e ∧
        ∀ parts shape, Cut parts text.toList → Means parts shape → IsReadable parts) := by
  refine ⟨fun d ↦ ofLine_eq_ok_iff, ⟨?_, ?_⟩, fun e ↦ ofLine_eq_error⟩
  · rintro ⟨d, hd⟩
    obtain ⟨-, -, parts, shape, hcut, hmeans, hreadable, hholds⟩ := ofLine_eq_ok_iff.1 hd
    exact ⟨parts, shape, hcut, hmeans, hreadable, hholds.count ▸ d.count_pos⟩
  · rintro ⟨parts, shape, hcut, hmeans, hreadable, hpos⟩
    rw [ofLine_of_means hcut hmeans hreadable]
    exact exists_ofShape_eq_ok_iff.2 hpos

def longOne : List Char :=
  List.replicate Numeral.maxDecimalDigits '0' ++ ['1']

theorem isNumeral_longOne : IsNumeral longOne := by
  refine ⟨by simp [longOne], fun c hc ↦ ?_⟩
  rcases List.mem_append.1 hc with hc | hc
  · rw [List.eq_of_mem_replicate hc]
    rfl
  · rw [List.mem_singleton.1 hc]
    rfl

theorem valueOf_longOne : valueOf longOne = 1 := by
  rw [valueOf, longOne, List.reverse_append, List.reverse_replicate, List.map_append,
    List.map_replicate]
  exact Nat.ofDigits_append_replicate_zero [1]

theorem cut_array {type count : List Char} (htype : IsIdentifier type) (hcount : IsNumeral count)
    (name : List Char) : Cut [type, ['['], count, [']'], name]
      (type ++ (['['] ++ (count ++ ([']'] ++ ([' '] ++ name ++ []))))) := by
  have hgap : IsGap [' '] := by simp [IsGap, isSpace]
  have hend : IsMaximal name [] := fun _ h ↦ absurd h (Option.not_mem_none _)
  refine .next (isMaximal_of_name (.plain htype) ?_) (.next (isMaximal_of_symbol rfl)
    (.next (isMaximal_of_numeral hcount ?_) (.next (isMaximal_of_symbol rfl)
      (.cons hgap hend (.nil (List.forall_mem_nil _))))))
  · intro d hd
    rw [← Option.some.inj hd]
    rfl
  · intro d hd
    rw [← Option.some.inj hd]
    rfl

/-- The line `u8[0…01] x` means one element `x`, and is not read all the same. -/
theorem ofLine_longOne :
    let text := ['u', '8'] ++ (['['] ++ (longOne ++ ([']'] ++ ([' '] ++ ['x'] ++ []))))
    (∃ parts, Cut parts text ∧ Means parts (.array "u8" 1 "x")) ∧
    ofLine (String.ofList text) 0 = .error .numeralTooLong ∧
    Error.numeralTooLong.causeKind ≠ .definition := by
  intro text
  have htype : IsIdentifier ['u', '8'] := .intro rfl (List.all_eq_true.1 rfl)
  have hcut := cut_array htype isNumeral_longOne ['x']
  have hmeans : Means [['u', '8'], ['['], longOne, [']'], ['x']]
      (.array "u8" (valueOf longOne) "x") :=
    .array htype isNumeral_longOne (.plain (.intro rfl nofun))
  refine ⟨⟨_, hcut, valueOf_longOne ▸ hmeans⟩, ?_, nofun⟩
  refine ofLine_of_not_isReadable (String.toList_ofList ▸ hcut) hmeans fun h ↦ ?_
  have := h longOne (by simp) isNumeral_longOne
  simp [longOne] at this

end Declaration

end RecordCodec.Schema
