import Mathlib.Data.List.TakeWhile
import Mathlib.Data.Nat.Digits.Defs
import RecordCodec.Proofs.Outcome
import RecordCodec.Schema.Declaration

namespace RecordCodec.Schema

inductive IsIdentifier : List Char → Prop
  | intro {c : Char} {rest : List Char} (hc : Token.isInitial c = true)
    (hrest : ∀ d ∈ rest, Token.isInner d = true) : IsIdentifier (c :: rest)

inductive IsName : List Char → Prop
  | plain {text : List Char} (h : IsIdentifier text) : IsName text
  | marked {text : List Char} (h : IsIdentifier text) : IsName ('#' :: text)

def IsNumeral (text : List Char) : Prop :=
  text ≠ [] ∧ ∀ c ∈ text, c.isDigit = true

def IsGap (text : List Char) : Prop :=
  ∀ c ∈ text, Token.isSpace c = true

/-- Whether a name or a number does not go on in what comes after it. -/
def IsMaximal (part after : List Char) : Prop :=
  ∀ c ∈ after.head?, (IsName part → ¬ IsName (part ++ [c])) ∧
    (IsNumeral part → ¬ IsNumeral (part ++ [c]))

/-- The parts of a line, with gaps between them and at its ends. -/
inductive Cut : List (List Char) → List Char → Prop
  | nil {gap : List Char} (hgap : IsGap gap) : Cut [] gap
  | cons {gap part after : List Char} {parts : List (List Char)} (hgap : IsGap gap)
    (hmax : IsMaximal part after) (h : Cut parts after) : Cut (part :: parts) (gap ++ part ++ after)

def valueOf (digits : List Char) : Nat :=
  Nat.ofDigits 10 (digits.reverse.map fun c ↦ c.toNat - '0'.toNat)

def runParts : List (List Char × List Char) → List (List Char)
  | [] => []
  | [run] => [run.1, [':'], run.2]
  | run :: next :: rest => run.1 :: [':'] :: run.2 :: [','] :: runParts (next :: rest)

/-- What the parts of a line mean, in one of three shapes. -/
inductive Means : List (List Char) → Shape → Prop
  | single {type name : List Char} (htype : IsIdentifier type) (hname : IsName name) :
    Means [type, name] (.single (String.ofList type) (String.ofList name))
  | array {type count name : List Char} (htype : IsIdentifier type) (hcount : IsNumeral count)
    (hname : IsName name) :
    Means [type, ['['], count, [']'], name]
      (.array (String.ofList type) (valueOf count) (String.ofList name))
  | divided {c : Container} {runs : List (List Char × List Char)} {name : List Char}
    (hne : runs ≠ []) (hruns : ∀ run ∈ runs, IsName run.1 ∧ IsNumeral run.2)
    (hname : IsName name) :
    Means (c.name.toList :: ['\x7b'] :: (runParts runs ++ [['\x7d'], name]))
      (.divided c.name (runs.map fun run ↦ ⟨String.ofList run.1, valueOf run.2⟩)
        (String.ofList name))

section Characters

variable {c : Char}

theorem isInner_of_isInitial (h : Token.isInitial c = true) : Token.isInner c = true := by
  simp only [Token.isInitial, Token.isInner, Char.isAlphanum, Bool.or_eq_true] at h ⊢
  tauto

theorem isInner_of_isDigit (h : c.isDigit = true) : Token.isInner c = true := by
  simp [Token.isInner, Char.isAlphanum, h]

theorem not_isSpace_of_isInner (h : Token.isInner c = true) : Token.isSpace c = false := by
  rw [Token.isSpace, Bool.or_eq_false_iff, beq_eq_false_iff_ne, beq_eq_false_iff_ne]
  constructor
  · rintro rfl
    cases h
  · rintro rfl
    cases h

theorem not_isSymbol_of_isInner (h : Token.isInner c = true) : Token.isSymbol c = false := by
  simp only [Token.isSymbol, Bool.or_eq_false_iff, beq_eq_false_iff_ne]
  refine ⟨⟨⟨⟨⟨?_, ?_⟩, ?_⟩, ?_⟩, ?_⟩, ?_⟩ <;> (rintro rfl; cases h)

theorem not_isSpace_of_isSymbol (h : Token.isSymbol c = true) : Token.isSpace c = false := by
  rw [Token.isSpace, Bool.or_eq_false_iff, beq_eq_false_iff_ne, beq_eq_false_iff_ne]
  constructor
  · rintro rfl
    cases h
  · rintro rfl
    cases h

theorem not_isInitial_of_isDigit (h : c.isDigit = true) : Token.isInitial c = false := by
  have hdigit : c.toNat ≤ 57 :=
    UInt32.le_iff_toNat_le.1 (of_decide_eq_true (Bool.and_eq_true_iff.1 h).2)
  rw [Bool.eq_false_iff]
  intro hinitial
  rcases Bool.or_eq_true_iff.1 hinitial with hletter | hline
  · rcases Bool.or_eq_true_iff.1 hletter with hupper | hlower
    · have : 65 ≤ c.toNat := UInt32.le_iff_toNat_le.1 (of_decide_eq_true hupper).1
      omega
    · have : 97 ≤ c.toNat :=
        UInt32.le_iff_toNat_le.1 (of_decide_eq_true (Bool.and_eq_true_iff.1 hlower).1)
      omega
  · rw [beq_iff_eq.1 hline] at hdigit
    exact absurd hdigit (by decide)

end Characters

section Parts

variable {c : Char} {part after : List Char}

theorem IsIdentifier.isInner (h : IsIdentifier part) : ∀ d ∈ part, Token.isInner d = true := by
  obtain ⟨hc, hrest⟩ := h
  intro d hd
  rcases List.mem_cons.1 hd with rfl | hd
  · exact isInner_of_isInitial hc
  · exact hrest d hd

theorem IsIdentifier.extend (h : IsIdentifier part) (hc : Token.isInner c = true) :
    IsIdentifier (part ++ [c]) := by
  obtain ⟨hd, hrest⟩ := h
  refine .intro hd fun e he ↦ ?_
  rcases List.mem_append.1 he with he | he
  · exact hrest e he
  · rwa [List.mem_singleton.1 he]

theorem IsName.extend (h : IsName part) (hc : Token.isInner c = true) : IsName (part ++ [c]) := by
  cases h with
  | plain h => exact .plain (h.extend hc)
  | marked h => exact .marked (h.extend hc)

theorem IsNumeral.extend (h : IsNumeral part) (hc : c.isDigit = true) :
    IsNumeral (part ++ [c]) := by
  refine ⟨by simp, fun d hd ↦ ?_⟩
  rcases List.mem_append.1 hd with hd | hd
  · exact h.2 d hd
  · rwa [List.mem_singleton.1 hd]

theorem IsName.isInner_last (h : IsName (part ++ [c])) (hpart : part ≠ []) :
    Token.isInner c = true := by
  obtain ⟨d, rest, rfl⟩ := List.exists_cons_of_ne_nil hpart
  rw [List.cons_append] at h
  cases h with
  | plain h =>
    obtain ⟨-, hrest⟩ := h
    exact hrest c (by simp)
  | marked h => exact h.isInner c (by simp)

theorem IsNumeral.isDigit_last (h : IsNumeral (part ++ [c])) : c.isDigit = true :=
  h.2 c (by simp)

theorem not_isNumeral_of_isName (h : IsName part) : ¬ IsNumeral part := by
  rintro ⟨-, hdigits⟩
  cases h with
  | plain h =>
    obtain ⟨hc, -⟩ := h
    have := not_isInitial_of_isDigit (hdigits _ List.mem_cons_self)
    rw [hc] at this
    cases this
  | marked h => cases hdigits '#' List.mem_cons_self

theorem IsMaximal.name (hmax : IsMaximal part after) (h : IsName part) :
    ∀ d ∈ after.head?, Token.isInner d = false := by
  intro d hd
  by_contra hinner
  exact (hmax d hd).1 h (h.extend (by simpa using hinner))

theorem IsMaximal.numeral (hmax : IsMaximal part after) (h : IsNumeral part) :
    ∀ d ∈ after.head?, d.isDigit = false := by
  intro d hd
  by_contra hdigit
  exact (hmax d hd).2 h (h.extend (by simpa using hdigit))

theorem isMaximal_of_name (h : IsName part) (hafter : ∀ d ∈ after.head?, Token.isInner d = false) :
    IsMaximal part after := by
  have hne : part ≠ [] := by
    cases h with
    | plain h => cases h; exact List.cons_ne_nil _ _
    | marked h => exact List.cons_ne_nil _ _
  refine fun d hd ↦ ⟨fun _ hlonger ↦ ?_, fun hnumeral ↦ absurd hnumeral (not_isNumeral_of_isName h)⟩
  have := hlonger.isInner_last hne
  rw [hafter d hd] at this
  cases this

theorem isMaximal_of_numeral (h : IsNumeral part) (hafter : ∀ d ∈ after.head?, d.isDigit = false) :
    IsMaximal part after := by
  refine fun d hd ↦ ⟨fun hname ↦ absurd h (not_isNumeral_of_isName hname), fun _ hlonger ↦ ?_⟩
  have := hlonger.isDigit_last
  rw [hafter d hd] at this
  cases this

theorem not_isName_of_isSymbol (h : Token.isSymbol c = true) : ¬ IsName [c] := by
  intro hname
  cases hname with
  | plain hname =>
    rw [not_isSymbol_of_isInner (hname.isInner c List.mem_cons_self)] at h
    cases h
  | marked hname => cases hname

theorem not_isNumeral_of_isSymbol (h : Token.isSymbol c = true) : ¬ IsNumeral [c] := by
  intro hnumeral
  have hdigit := hnumeral.2 c List.mem_cons_self
  rw [not_isSymbol_of_isInner (isInner_of_isDigit hdigit)] at h
  cases h

theorem isMaximal_of_symbol (h : Token.isSymbol c = true) : IsMaximal [c] after :=
  fun _ _ ↦ ⟨fun hname ↦ absurd hname (not_isName_of_isSymbol h),
    fun hnumeral ↦ absurd hnumeral (not_isNumeral_of_isSymbol h)⟩

theorem Cut.next {parts : List (List Char)} (hmax : IsMaximal part after) (h : Cut parts after) :
    Cut (part :: parts) (part ++ after) :=
  .cons (List.forall_mem_nil _) hmax h

end Parts

namespace Token

inductive Spells : Token → List Char → Prop
  | word {text : List Char} (h : IsIdentifier text) : Spells (word text) text
  | marked {text : List Char} (h : IsIdentifier text) : Spells (marked ('#' :: text)) ('#' :: text)
  | number {text : List Char} (h : IsNumeral text) : Spells (number text) text
  | symbol {c : Char} (h : isSymbol c = true) : Spells (symbol c) [c]

variable {token : Token} {tokens : List Token} {gap part after text : List Char}

theorem scan_gap (h : IsGap gap) (after : List Char) : scan (gap ++ after) = scan after := by
  induction gap with
  | nil => rfl
  | cons c gap ih =>
    rw [List.cons_append, scan, if_pos (h c List.mem_cons_self)]
    exact ih fun d hd ↦ h d (List.mem_cons_of_mem _ hd)

theorem takeWhile_append_of_head {p : Char → Bool} (hpart : ∀ c ∈ part, p c = true)
    (hafter : ∀ c ∈ after.head?, p c = false) : (part ++ after).takeWhile p = part := by
  rw [List.takeWhile_append_of_pos hpart]
  cases after with
  | nil => simp
  | cons c after => simp [hafter c rfl]

theorem dropWhile_append_of_head {p : Char → Bool} (hpart : ∀ c ∈ part, p c = true)
    (hafter : ∀ c ∈ after.head?, p c = false) : (part ++ after).dropWhile p = after := by
  rw [List.dropWhile_append_of_pos hpart]
  cases after with
  | nil => rfl
  | cons c after => simp [hafter c rfl]

theorem scan_part (h : Spells token part) (hmax : IsMaximal part after) :
    scan (part ++ after) = (scan after).map (token :: ·) := by
  cases h with
  | word h =>
    have hafter := hmax.name (.plain h)
    obtain ⟨hc, hrest⟩ := h
    have hinner := isInner_of_isInitial hc
    rw [List.cons_append, scan, not_isSpace_of_isInner hinner, not_isSymbol_of_isInner hinner, hc,
      takeWhile_append_of_head hrest hafter, dropWhile_append_of_head hrest hafter]
    rfl
  | marked h =>
    have hafter := hmax.name (.marked h)
    have hinner := h.isInner
    cases h with
    | @intro c rest hc _ =>
      have hhead : ((c :: rest ++ after).head?.any isInitial) = true := hc
      rw [List.cons_append, scan, takeWhile_append_of_head hinner hafter,
        dropWhile_append_of_head hinner hafter, hhead]
      rfl
  | number h =>
    have hafter := hmax.numeral h
    obtain ⟨hne, hdigits⟩ := h
    obtain ⟨c, rest, rfl⟩ := List.exists_cons_of_ne_nil hne
    have hc := hdigits c List.mem_cons_self
    have hinner := isInner_of_isDigit hc
    have hrest : ∀ d ∈ rest, d.isDigit = true := fun d hd ↦ hdigits d (List.mem_cons_of_mem _ hd)
    rw [List.cons_append, scan, not_isSpace_of_isInner hinner, not_isSymbol_of_isInner hinner,
      not_isInitial_of_isDigit hc, hc, takeWhile_append_of_head hrest hafter,
      dropWhile_append_of_head hrest hafter]
    rfl
  | symbol h =>
    rw [List.cons_append, scan, not_isSpace_of_isSymbol h, h]
    rfl

/-- Scanning finds the tokens of every cut. -/
theorem scan_of_cut {parts : List (List Char)} (hcut : Cut parts text)
    (h : tokens.Forall₂ Spells parts) : scan text = some tokens := by
  induction hcut generalizing tokens with
  | @nil gap hgap =>
    cases h
    have := scan_gap hgap []
    rwa [List.append_nil, scan] at this
  | @cons gap part after parts hgap hmax _ ih =>
    obtain ⟨token, rest, hpart, hrest, rfl⟩ := List.forall₂_cons_right_iff.1 h
    rw [List.append_assoc, scan_gap hgap, scan_part hpart hmax, ih hrest]
    rfl

theorem Cut.of_space {c : Char} {parts : List (List Char)} (hc : isSpace c = true)
    (h : Cut parts text) : Cut parts (c :: text) := by
  have hgap {gap : List Char} (h : IsGap gap) : IsGap (c :: gap) := fun d hd ↦ by
    rcases List.mem_cons.1 hd with rfl | hd
    · exact hc
    · exact h d hd
  cases h with
  | nil h => exact .nil (hgap h)
  | cons h hmax hcut => exact .cons (hgap h) hmax hcut

def IsCutInto (text : List Char) (tokens : List Token) : Prop :=
  ∃ parts, Cut parts text ∧ tokens.Forall₂ Spells parts

theorem IsCutInto.cons (hpart : Spells token part) (hmax : IsMaximal part after)
    (h : IsCutInto after tokens) : IsCutInto (part ++ after) (token :: tokens) := by
  obtain ⟨parts, hcut, hspells⟩ := h
  exact ⟨part :: parts, hcut.next hmax, .cons hpart hspells⟩

theorem not_head_dropWhile (p : Char → Bool) (text : List Char) :
    ∀ c ∈ (text.dropWhile p).head?, p c = false := by
  intro c hc
  have := List.head?_dropWhile_not p text
  rw [Option.mem_def] at hc
  rwa [hc] at this

theorem isIdentifier_takeWhile {c : Char} (hc : isInitial c = true) (rest : List Char) :
    IsIdentifier (c :: rest.takeWhile isInner) :=
  .intro hc fun _ hd ↦ List.mem_takeWhile_imp hd

theorem isCutInto_of_scan (h : scan text = some tokens) : IsCutInto text tokens := by
  fun_induction scan text generalizing tokens with
  | case1 =>
    cases h
    exact ⟨[], .nil nofun, .nil⟩
  | case2 c rest hspace ih =>
    obtain ⟨parts, hcut, hspells⟩ := ih h
    exact ⟨parts, Cut.of_space hspace hcut, hspells⟩
  | case3 c rest _ hsymbol ih =>
    obtain ⟨tokens, hrest, rfl⟩ := Option.map_eq_some_iff.1 h
    exact (ih hrest).cons (.symbol hsymbol) (isMaximal_of_symbol hsymbol)
  | case4 c rest _ _ hinitial ih =>
    obtain ⟨tokens, hrest, rfl⟩ := Option.map_eq_some_iff.1 h
    have hword := isIdentifier_takeWhile hinitial rest
    have hmax := isMaximal_of_name (.plain hword) (not_head_dropWhile isInner rest)
    have hcut := (ih hrest).cons (.word hword) hmax
    rwa [List.cons_append, List.takeWhile_append_dropWhile] at hcut
  | case5 c rest _ _ _ hdigit ih =>
    obtain ⟨tokens, hrest, rfl⟩ := Option.map_eq_some_iff.1 h
    have hnumber : IsNumeral (c :: rest.takeWhile Char.isDigit) := by
      refine ⟨List.cons_ne_nil _ _, fun d hd ↦ ?_⟩
      rcases List.mem_cons.1 hd with rfl | hd
      · exact hdigit
      · exact List.mem_takeWhile_imp hd
    have hmax := isMaximal_of_numeral hnumber (not_head_dropWhile Char.isDigit rest)
    have hcut := (ih hrest).cons (.number hnumber) hmax
    rwa [List.cons_append, List.takeWhile_append_dropWhile] at hcut
  | case6 c rest _ _ _ _ hmark ih =>
    obtain ⟨tokens, hrest, rfl⟩ := Option.map_eq_some_iff.1 h
    rw [Bool.and_eq_true, beq_iff_eq] at hmark
    obtain ⟨rfl, hhead⟩ := hmark
    cases rest with
    | nil => cases hhead
    | cons d rest =>
      have hd : isInitial d = true := hhead
      rw [List.dropWhile_cons_of_pos (isInner_of_isInitial hd)] at ih hrest
      rw [List.takeWhile_cons_of_pos (isInner_of_isInitial hd)]
      have hword := isIdentifier_takeWhile hd rest
      have hmax := isMaximal_of_name (.marked hword) (not_head_dropWhile isInner rest)
      have hcut := (ih hrest).cons (.marked hword) hmax
      rwa [List.cons_append, List.cons_append, List.takeWhile_append_dropWhile] at hcut
  | case7 => cases h

theorem scan_eq_some_iff : scan text = some tokens ↔ IsCutInto text tokens :=
  ⟨isCutInto_of_scan, fun ⟨_, hcut, h⟩ ↦ scan_of_cut hcut h⟩

theorem numberValue_eq (digits : List Char) : numberValue digits = valueOf digits := by
  rw [numberValue, valueOf, ← List.foldr_reverse]
  induction digits.reverse with
  | nil => rfl
  | cons c rest ih =>
    rw [List.foldr_cons, ih, List.map_cons, Nat.ofDigits_cons, Nat.mul_comm, Nat.add_comm]

section Spells

variable {name : String} {c : Char}

theorem Spells.eq_word (h : Spells token part) (hpart : IsIdentifier part) :
    token = Token.word part := by
  cases h with
  | word => rfl
  | marked => cases hpart; contradiction
  | number h => exact absurd h (not_isNumeral_of_isName (.plain hpart))
  | symbol h => exact absurd (.plain hpart) (not_isName_of_isSymbol h)

theorem Spells.eq_number (h : Spells token part) (hpart : IsNumeral part) :
    token = Token.number part := by
  cases h with
  | word h => exact absurd hpart (not_isNumeral_of_isName (.plain h))
  | marked h => exact absurd hpart (not_isNumeral_of_isName (.marked h))
  | number => rfl
  | symbol h => exact absurd hpart (not_isNumeral_of_isSymbol h)

theorem Spells.eq_symbol (h : Spells token [c]) (hc : isSymbol c = true) :
    token = Token.symbol c := by
  cases h with
  | word h => exact absurd (.plain h) (not_isName_of_isSymbol hc)
  | marked h => cases h
  | number h => exact absurd h (not_isNumeral_of_isSymbol hc)
  | symbol => rfl

theorem exists_spells_of_isName (h : IsName part) : ∃ token, Spells token part := by
  cases h with
  | plain h => exact ⟨_, .word h⟩
  | marked h => exact ⟨_, .marked h⟩

theorem Spells.nameText?_eq_some_iff (h : Spells token part) :
    token.nameText? = some name ↔ IsName part ∧ String.ofList part = name := by
  cases h with
  | word h =>
    rw [nameText?, Option.some_inj]
    exact (and_iff_right (.plain h)).symm
  | marked h =>
    rw [nameText?, Option.some_inj]
    exact (and_iff_right (.marked h)).symm
  | number h => exact iff_of_false nofun fun hname ↦ not_isNumeral_of_isName hname.1 h
  | symbol h => exact iff_of_false nofun fun hname ↦ not_isName_of_isSymbol h hname.1

end Spells

end Token

namespace Shape

open Token

variable {tokens : List Token} {parts : List (List Char)}

theorem isIdentifier_container (c : Container) : IsIdentifier c.name.toList := by
  cases c <;> exact .intro (by decide) (List.all_eq_true.1 (by decide))

theorem runList_of_runParts {runs : List (List Char × List Char)} {name : List Char}
    (hne : runs ≠ []) (hruns : ∀ run ∈ runs, IsName run.1 ∧ IsNumeral run.2) (hname : IsName name)
    (h : tokens.Forall₂ Spells (runParts runs ++ [['\x7d'], name])) :
    runList tokens = some (runs.map fun run ↦ ⟨String.ofList run.1, valueOf run.2⟩,
      String.ofList name) := by
  induction runs generalizing tokens with
  | nil => contradiction
  | cons run rest ih =>
    obtain ⟨hrun, hwidth⟩ := hruns run List.mem_cons_self
    cases rest with
    | nil =>
      obtain _ | ⟨hr, _ | ⟨hcolon, _ | ⟨hn, _ | ⟨hbrace, _ | ⟨hm, _ | _⟩⟩⟩⟩⟩ := h
      cases hcolon.eq_symbol rfl
      cases hn.eq_number hwidth
      cases hbrace.eq_symbol rfl
      simp [runList, hr.nameText?_eq_some_iff.2 ⟨hrun, rfl⟩,
        hm.nameText?_eq_some_iff.2 ⟨hname, rfl⟩, numberValue_eq]
    | cons next rest =>
      obtain _ | ⟨hr, _ | ⟨hcolon, _ | ⟨hn, _ | ⟨hcomma, hrest⟩⟩⟩⟩ := h
      cases hcolon.eq_symbol rfl
      cases hn.eq_number hwidth
      cases hcomma.eq_symbol rfl
      have hlist := ih (List.cons_ne_nil _ _)
        (fun run hrun ↦ hruns run (List.mem_cons_of_mem _ hrun)) hrest
      simp [runList, hr.nameText?_eq_some_iff.2 ⟨hrun, rfl⟩, hlist, numberValue_eq]

theorem exists_spells_of_runParts {runs : List (List Char × List Char)}
    (hruns : ∀ run ∈ runs, IsName run.1 ∧ IsNumeral run.2) :
    ∃ tokens, List.Forall₂ Spells tokens (runParts runs) := by
  induction runs with
  | nil => exact ⟨[], .nil⟩
  | cons run rest ih =>
    obtain ⟨hrun, hwidth⟩ := hruns run List.mem_cons_self
    obtain ⟨token, htoken⟩ := exists_spells_of_isName hrun
    cases rest with
    | nil => exact ⟨_, .cons htoken (.cons (.symbol rfl) (.cons (.number hwidth) .nil))⟩
    | cons next rest =>
      obtain ⟨tokens, htokens⟩ := ih fun run hrun ↦ hruns run (List.mem_cons_of_mem _ hrun)
      exact ⟨_, .cons htoken (.cons (.symbol rfl) (.cons (.number hwidth)
        (.cons (.symbol rfl) htokens)))⟩

theorem exists_runParts {specs : List RunSpec} {name : String}
    (h : runList tokens = some (specs, name)) (hspells : tokens.Forall₂ Spells parts) :
    ∃ runs nameText, runs ≠ [] ∧ (∀ run ∈ runs, IsName run.1 ∧ IsNumeral run.2) ∧
      IsName nameText ∧ parts = runParts runs ++ [['\x7d'], nameText] ∧
      specs = runs.map (fun run ↦ ⟨String.ofList run.1, valueOf run.2⟩) ∧
      name = String.ofList nameText := by
  fun_induction runList tokens generalizing specs parts with
  | case1 run width nameToken =>
    simp only [Option.bind_eq_bind, Option.bind_eq_some_iff, Option.pure_def, Option.some_inj] at h
    obtain ⟨runName, hrun, name', hname, h⟩ := h
    cases h
    obtain _ | ⟨hr, _ | ⟨hcolon, _ | ⟨hn, _ | ⟨hbrace, _ | ⟨hm, _ | _⟩⟩⟩⟩⟩ := hspells
    cases hcolon
    cases hbrace
    cases hn with
    | number hn =>
      obtain ⟨hr', rfl⟩ := hr.nameText?_eq_some_iff.1 hrun
      obtain ⟨hm', rfl⟩ := hm.nameText?_eq_some_iff.1 hname
      exact ⟨[(_, width)], _, List.cons_ne_nil _ _, by simpa using ⟨hr', hn⟩, hm', rfl,
        by rw [numberValue_eq]; rfl, rfl⟩
  | case2 run width rest ih =>
    simp only [Option.bind_eq_bind, Option.bind_eq_some_iff, Option.pure_def, Option.some_inj] at h
    obtain ⟨⟨runs, name'⟩, hlist, runName, hrun, h⟩ := h
    cases h
    obtain _ | ⟨hr, _ | ⟨hcolon, _ | ⟨hn, _ | ⟨hcomma, hrest⟩⟩⟩⟩ := hspells
    cases hcolon
    cases hcomma
    cases hn with
    | number hn =>
      obtain ⟨hr', rfl⟩ := hr.nameText?_eq_some_iff.1 hrun
      obtain ⟨runs, nameText, hne, hruns, hname, rfl, rfl, rfl⟩ := ih hlist hrest
      obtain ⟨next, rest, rfl⟩ := List.exists_cons_of_ne_nil hne
      refine ⟨(_, width) :: next :: rest, nameText, List.cons_ne_nil _ _, ?_, hname, rfl,
        by rw [numberValue_eq]; rfl, rfl⟩
      intro run' hrun'
      rcases List.mem_cons.1 hrun' with rfl | hrun'
      · exact ⟨hr', hn⟩
      · exact hruns run' hrun'
  | case3 => cases h

theorem means_of_ofTokens {shape : Shape} (h : tokens.Forall₂ Spells parts)
    (hshape : ofTokens tokens = some shape) : Means parts shape := by
  unfold ofTokens at hshape
  split at hshape
  · simp only [Option.bind_eq_bind, Option.bind_eq_some_iff, Option.pure_def,
      Option.some_inj] at hshape
    obtain ⟨name, hname, rfl⟩ := hshape
    obtain _ | ⟨ht, _ | ⟨hn, _ | _⟩⟩ := h
    obtain ⟨hn', rfl⟩ := hn.nameText?_eq_some_iff.1 hname
    cases ht with
    | word ht => exact .single ht hn'
  · simp only [Option.bind_eq_bind, Option.bind_eq_some_iff, Option.pure_def,
      Option.some_inj] at hshape
    obtain ⟨name, hname, rfl⟩ := hshape
    obtain _ | ⟨ht, _ | ⟨hopen, _ | ⟨hcount, _ | ⟨hclose, _ | ⟨hn, _ | _⟩⟩⟩⟩⟩ := h
    obtain ⟨hn', rfl⟩ := hn.nameText?_eq_some_iff.1 hname
    cases hopen
    cases hclose
    cases ht with
    | word ht =>
      cases hcount with
      | number hcount =>
        rw [numberValue_eq]
        exact .array ht hcount hn'
  · simp only [Option.bind_eq_bind, Option.bind_eq_some_iff, Option.pure_def, Option.some_inj,
      Option.guard_eq_some'] at hshape
    obtain ⟨-, hmem, ⟨specs, name⟩, hlist, rfl⟩ := hshape
    obtain ⟨c, -, hc⟩ := List.mem_map.1 hmem
    obtain _ | ⟨ht, _ | ⟨hopen, hrest⟩⟩ := h
    obtain ⟨runs, nameText, hne, hruns, hname, rfl, rfl, rfl⟩ := exists_runParts hlist hrest
    cases hopen
    cases ht
    have htext := congrArg String.toList hc
    rw [String.toList_ofList] at htext
    rw [← hc, ← htext]
    exact .divided hne hruns hname
  · cases hshape

theorem exists_spells_of_means {shape : Shape} (h : Means parts shape) :
    ∃ tokens, List.Forall₂ Spells tokens parts := by
  cases h with
  | single htype hname =>
    obtain ⟨token, htoken⟩ := exists_spells_of_isName hname
    exact ⟨_, .cons (.word htype) (.cons htoken .nil)⟩
  | array htype hcount hname =>
    obtain ⟨token, htoken⟩ := exists_spells_of_isName hname
    exact ⟨_, .cons (.word htype) (.cons (.symbol rfl) (.cons (.number hcount)
      (.cons (.symbol rfl) (.cons htoken .nil))))⟩
  | @divided c runs name _ hruns hname =>
    obtain ⟨token, htoken⟩ := exists_spells_of_isName hname
    obtain ⟨tokens, htokens⟩ := exists_spells_of_runParts hruns
    exact ⟨_, .cons (.word (isIdentifier_container c)) (.cons (.symbol rfl)
      (List.rel_append htokens (.cons (.symbol rfl) (.cons htoken .nil))))⟩

theorem ofTokens_of_means {shape : Shape} (h : tokens.Forall₂ Spells parts)
    (hmeans : Means parts shape) : ofTokens tokens = some shape := by
  cases hmeans with
  | single htype hname =>
    obtain _ | ⟨ht, _ | ⟨hn, _ | _⟩⟩ := h
    cases ht.eq_word htype
    simp [ofTokens, hn.nameText?_eq_some_iff.2 ⟨hname, rfl⟩]
  | array htype hcount hname =>
    obtain _ | ⟨ht, _ | ⟨hopen, _ | ⟨hnumber, _ | ⟨hclose, _ | ⟨hn, _ | _⟩⟩⟩⟩⟩ := h
    cases ht.eq_word htype
    cases hopen.eq_symbol rfl
    cases hnumber.eq_number hcount
    cases hclose.eq_symbol rfl
    simp [ofTokens, hn.nameText?_eq_some_iff.2 ⟨hname, rfl⟩, numberValue_eq]
  | @divided c runs name hne hruns hname =>
    obtain _ | ⟨ht, _ | ⟨hopen, hrest⟩⟩ := h
    cases ht.eq_word (isIdentifier_container c)
    cases hopen.eq_symbol rfl
    have hlist := runList_of_runParts hne hruns hname hrest
    have hmem : c.name ∈ containerNames := by cases c <;> decide
    rw [ofTokens.eq_3]
    · simp [hlist, hmem]
    · rintro rfl
      cases hlist

/-- Tokens form a shape exactly if the parts of the line mean it. -/
theorem ofTokens_eq_some_iff {shape : Shape} (h : tokens.Forall₂ Spells parts) :
    ofTokens tokens = some shape ↔ Means parts shape :=
  ⟨means_of_ofTokens h, ofTokens_of_means h⟩

end Shape

end RecordCodec.Schema
