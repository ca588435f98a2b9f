import Mathlib.Logic.Relation
import RecordCodec.Proofs.Schema.Declaration

namespace RecordCodec

namespace Text

variable {c : Char} {text front back : List Char}

theorem exists_splitLines (text : List Char) : ∃ line rest, splitLines text = line :: rest := by
  cases text with
  | nil => exact ⟨[], [], rfl⟩
  | cons c text =>
    rw [splitLines]
    split
    · exact ⟨_, _, rfl⟩
    · split
      · exact ⟨_, _, rfl⟩
      · exact ⟨_, _, rfl⟩

theorem splitLines_newline (text : List Char) : splitLines ('\n' :: text) = [] :: splitLines text :=
  rfl

theorem splitLines_cons (hc : c ≠ '\n') {line : List Char} {rest : List (List Char)}
    (h : splitLines text = line :: rest) : splitLines (c :: text) = (c :: line) :: rest := by
  rw [splitLines, if_neg hc, h]

theorem splitLines_append (front back : List Char) :
    splitLines (front ++ '\n' :: back) = splitLines front ++ splitLines back := by
  induction front with
  | nil => rfl
  | cons c front ih =>
    rw [List.cons_append]
    by_cases hc : c = '\n'
    · rw [hc, splitLines_newline, splitLines_newline, ih, List.cons_append]
    · obtain ⟨line, rest, hfront⟩ := exists_splitLines front
      rw [hfront, List.cons_append] at ih
      rw [splitLines_cons hc ih, splitLines_cons hc hfront, List.cons_append]

theorem length_splitLines (text : List Char) :
    (splitLines text).length = text.count '\n' + 1 := by
  induction text with
  | nil => rfl
  | cons c text ih =>
    by_cases hc : c = '\n'
    · rw [hc, splitLines_newline, List.length_cons, ih, List.count_cons_self]
    · obtain ⟨line, rest, htext⟩ := exists_splitLines text
      rw [splitLines_cons hc htext, List.length_cons, List.count_cons_of_ne hc, ← ih, htext,
        List.length_cons]

theorem exists_splitLines_concat (hc : c ≠ '\n') (text : List Char) : ∃ lines last,
    splitLines text = lines ++ [last] ∧ splitLines (text ++ [c]) = lines ++ [last ++ [c]] := by
  induction text with
  | nil => exact ⟨[], [], rfl, splitLines_cons hc rfl⟩
  | cons d text ih =>
    obtain ⟨lines, last, htext, hlonger⟩ := ih
    rw [List.cons_append]
    by_cases hd : d = '\n'
    · subst hd
      exact ⟨[] :: lines, last, by rw [splitLines_newline, htext, List.cons_append],
        by rw [splitLines_newline, hlonger, List.cons_append]⟩
    · cases lines with
      | nil => exact ⟨[], d :: last, splitLines_cons hd htext, splitLines_cons hd hlonger⟩
      | cons line lines =>
        exact ⟨(d :: line) :: lines, last, splitLines_cons hd htext, splitLines_cons hd hlonger⟩

theorem trim_cons (hc : isBlank c = true) (text : List Char) : trim (c :: text) = trim text := by
  rw [trim, trim, List.dropWhile_cons_of_pos hc]

theorem trim_concat (hc : isBlank c = true) (text : List Char) :
    trim (text ++ [c]) = trim text := by
  rw [trim, trim, List.dropWhile_append]
  by_cases hempty : (text.dropWhile isBlank).isEmpty = true
  · rw [if_pos hempty, List.isEmpty_iff.1 hempty, List.dropWhile_cons_of_pos hc]
    rfl
  · rw [if_neg hempty, List.reverse_append, List.reverse_singleton, List.singleton_append,
      List.dropWhile_cons_of_pos hc]

end Text

namespace Error

def line? : Error → Option Int
  | malformedLine line _ | arrayLength line .. | repeatedMember line .. | stringMember line
  | unsizedMember line _ | runsNotAllowed line _ => some line
  | _ => none

/-- The error of the same line when `above` more lines come before it. -/
def below (above : Nat) : Error → Error
  | malformedLine line text => malformedLine (line + above) text
  | arrayLength line length text => arrayLength (line + above) length text
  | repeatedMember line member record => repeatedMember (line + above) member record
  | stringMember line => stringMember (line + above)
  | unsizedMember line type => unsizedMember (line + above) type
  | runsNotAllowed line type => runsNotAllowed (line + above) type
  | e => e

variable {e : Error} (above : Nat)

theorem line?_below (e : Error) : (e.below above).line? = e.line?.map (· + (above : Int)) := by
  cases e <;> rfl

theorem causeKind_below (e : Error) : (e.below above).causeKind = e.causeKind := by
  cases e <;> rfl

theorem exists_wording?_below {line : Int} (h : e.line? = some line) :
    ∃ rest, e.wording? = some ("line " ++ toString line ++ rest) ∧
      (e.below above).wording? = some ("line " ++ toString (line + above) ++ rest) := by
  cases e <;> cases h <;> simp only [below, wording?, Option.some_inj, String.append_assoc] <;>
    exact ⟨_, rfl, rfl⟩

end Error

def mapBelow {α β : Type} (above : Nat) (f : α → β) : Except Error α → Except Error β
  | .ok a => .ok (f a)
  | .error e => .error (e.below above)

namespace Schema

def Declaration.below (above : Nat) (d : Declaration) : Declaration :=
  { d with line := d.line + above }

def NamesLine (e : Error) : Prop :=
  e = .numeralTooLong ∨ ∃ line, e.line? = some line

namespace Declaration

variable (text : String) (line : Int) (above : Nat)

theorem ofLine_names_line : FailsWith NamesLine (ofLine text line) := by
  unfold ofLine
  split
  · exact .error (.inr ⟨line, rfl⟩)
  · split
    · exact .error (.inr ⟨line, rfl⟩)
    · split
      · exact fun e he ↦ .inr ⟨line, (ofShape_eq_error he).2 ▸ rfl⟩
      · exact .error (.inl rfl)

theorem ofShape_add (shape : Shape) : ofShape text (line + above) shape =
    mapBelow above (below above) (ofShape text line shape) := by
  cases shape with
  | array type count name =>
    rw [ofShape, ofShape]
    split
    · rfl
    · rfl
  | _ => rfl

theorem ofLine_add :
    ofLine text (line + above) = mapBelow above (below above) (ofLine text line) := by
  rw [ofLine, ofLine]
  split
  · rfl
  · split
    · rfl
    · split
      · exact ofShape_add text line above _
      · rfl

end Declaration

theorem declarationsFrom_names_line (line : Nat) (texts : List (List Char)) :
    FailsWith NamesLine (declarationsFrom line texts) := by
  induction texts generalizing line with
  | nil => exact .ok _
  | cons text rest ih =>
    rw [declarationsFrom]
    split
    · exact ih _
    · exact (Declaration.ofLine_names_line _ _).bind fun _ ↦ (ih _).bind fun _ ↦ .ok _

theorem declarationsFrom_add (line above : Nat) (texts : List (List Char)) :
    declarationsFrom (line + above) texts =
      mapBelow above (List.map (Declaration.below above)) (declarationsFrom line texts) := by
  induction texts generalizing line with
  | nil => rfl
  | cons text rest ih =>
    have hrest := ih (line + 1)
    rw [Nat.add_right_comm] at hrest
    rw [declarationsFrom, declarationsFrom]
    split
    · exact hrest
    · rw [hrest, Int.natCast_add, Declaration.ofLine_add]
      cases Declaration.ofLine (String.ofList text) line with
      | error e => rfl
      | ok d => cases declarationsFrom (line + 1) rest <;> rfl

/-- Of several lines the first faulty one decides, and otherwise each gives its declaration. -/
theorem declarationsFrom_append (line : Nat) (texts later : List (List Char)) :
    declarationsFrom line (texts ++ later) = do
      let ds ← declarationsFrom line texts
      let ds' ← declarationsFrom (line + texts.length) later
      return ds ++ ds' := by
  induction texts generalizing line with
  | nil =>
    rw [List.nil_append, declarationsFrom, ok_bind]
    exact (bind_pure (declarationsFrom line later)).symm
  | cons text rest ih =>
    have hrest := ih (line + 1)
    rw [Nat.add_right_comm, Nat.add_assoc] at hrest
    rw [List.cons_append, declarationsFrom, declarationsFrom, hrest]
    split
    · rfl
    · cases Declaration.ofLine (String.ofList text) line with
      | error e => rfl
      | ok d =>
        cases declarationsFrom (line + 1) rest with
        | error e => rfl
        | ok ds => cases declarationsFrom (line + (text :: rest).length) later <;> rfl

theorem lines_append (a b : String) : lines (a ++ "\n" ++ b) = lines a ++ lines b := by
  have htext : (a ++ "\n" ++ b).toList = a.toList ++ '\n' :: b.toList := by
    rw [String.toList_append, String.toList_append, List.append_assoc]
    rfl
  rw [lines, lines, lines, htext, List.filter_append, List.filter_cons_of_pos rfl,
    Text.splitLines_append, List.map_append]

def lineCount (text : String) : Nat :=
  text.toList.count '\n' + 1

theorem length_lines (text : String) : (lines text).length = lineCount text := by
  rw [lines, List.length_map, Text.length_splitLines, List.count_filter rfl, lineCount]

theorem parse_append (a b : String) :
    parse (a ++ "\n" ++ b) = do
      let ds ← parse a
      let ds' ← mapBelow (lineCount a) (List.map (Declaration.below (lineCount a))) (parse b)
      return ds ++ ds' := by
  rw [parse, lines_append, declarationsFrom_append, length_lines, declarationsFrom_add]
  rfl

section Blanks

variable {c : Char} {text padded : String} {front back : List Char}

/-- Putting a character into a text where no line shows it: a carriage return anywhere, or any other
blank in front of a line or behind it. -/
inductive Pads : String → String → Prop
  | carriage (front back : List Char) :
    Pads (String.ofList (front ++ back)) (String.ofList (front ++ '\r' :: back))
  | before {c : Char} {front back : List Char} (hc : Text.isBlank c = true) (hne : c ≠ '\n')
    (hfront : ∀ d ∈ front.getLast?, d = '\n') :
    Pads (String.ofList (front ++ back)) (String.ofList (front ++ c :: back))
  | behind {c : Char} {front back : List Char} (hc : Text.isBlank c = true) (hne : c ≠ '\n')
    (hback : ∀ d ∈ back.head?, d = '\n') :
    Pads (String.ofList (front ++ back)) (String.ofList (front ++ c :: back))

theorem lines_ofList (text : List Char) :
    lines (String.ofList text) = (Text.splitLines (text.filter (· != '\r'))).map Text.trim := by
  rw [lines, String.toList_ofList]

theorem map_trim_cons (hc : Text.isBlank c = true) (hne : c ≠ '\n') (text : List Char) :
    (Text.splitLines (c :: text)).map Text.trim = (Text.splitLines text).map Text.trim := by
  obtain ⟨line, rest, htext⟩ := Text.exists_splitLines text
  rw [Text.splitLines_cons hne htext, htext, List.map_cons, List.map_cons, Text.trim_cons hc]

theorem map_trim_concat (hc : Text.isBlank c = true) (hne : c ≠ '\n') (text : List Char) :
    (Text.splitLines (text ++ [c])).map Text.trim = (Text.splitLines text).map Text.trim := by
  obtain ⟨lines, last, htext, hlonger⟩ := Text.exists_splitLines_concat hne text
  rw [htext, hlonger, List.map_append, List.map_append, List.map_singleton, List.map_singleton,
    Text.trim_concat hc]

theorem lines_carriage (front back : List Char) :
    lines (String.ofList (front ++ '\r' :: back)) = lines (String.ofList (front ++ back)) := by
  rw [lines_ofList, lines_ofList, List.filter_append, List.filter_append,
    List.filter_cons_of_neg (by decide)]

theorem lines_before (hc : Text.isBlank c = true) (hne : c ≠ '\n') (hreturn : c ≠ '\r')
    (hfront : ∀ d ∈ front.getLast?, d = '\n') :
    lines (String.ofList (front ++ c :: back)) = lines (String.ofList (front ++ back)) := by
  rw [lines_ofList, lines_ofList, List.filter_append, List.filter_append,
    List.filter_cons_of_pos (p := (· != '\r')) (bne_iff_ne.2 hreturn)]
  rcases List.eq_nil_or_concat front with rfl | ⟨earlier, d, rfl⟩
  · exact map_trim_cons hc hne _
  · obtain rfl : d = '\n' := hfront d (by simp)
    rw [List.concat_eq_append, List.filter_append, List.filter_cons_of_pos rfl, List.filter_nil,
      List.append_assoc, List.append_assoc, List.singleton_append, List.singleton_append,
      Text.splitLines_append, Text.splitLines_append, List.map_append, List.map_append,
      map_trim_cons hc hne]

theorem lines_behind (hc : Text.isBlank c = true) (hne : c ≠ '\n') (hreturn : c ≠ '\r')
    (hback : ∀ d ∈ back.head?, d = '\n') :
    lines (String.ofList (front ++ c :: back)) = lines (String.ofList (front ++ back)) := by
  rw [lines_ofList, lines_ofList, List.filter_append, List.filter_append,
    List.filter_cons_of_pos (p := (· != '\r')) (bne_iff_ne.2 hreturn)]
  cases back with
  | nil => rw [List.filter_nil, map_trim_concat hc hne, List.append_nil]
  | cons d later =>
    obtain rfl : d = '\n' := hback d rfl
    rw [List.filter_cons_of_pos rfl, List.append_cons, Text.splitLines_append,
      Text.splitLines_append, List.map_append, List.map_append, map_trim_concat hc hne]

theorem lines_of_pads (h : Pads text padded) : lines padded = lines text := by
  cases h with
  | carriage front back => exact lines_carriage front back
  | @before c front back hc hne hfront =>
    by_cases hreturn : c = '\r'
    · exact hreturn ▸ lines_carriage front back
    · exact lines_before hc hne hreturn hfront
  | @behind c front back hc hne hback =>
    by_cases hreturn : c = '\r'
    · exact hreturn ▸ lines_carriage front back
    · exact lines_behind hc hne hreturn hback

theorem lines_of_eqvGen (h : Relation.EqvGen Pads text padded) : lines padded = lines text := by
  induction h with
  | rel _ _ h => exact lines_of_pads h
  | refl _ => rfl
  | symm _ _ _ ih => exact ih.symm
  | trans _ _ _ _ _ ih ih' => exact ih'.trans ih

end Blanks

/-- A schema below another one is read as it is read alone, with higher numbers for its lines; what
is wrong above it comes first. No carriage return, and no blank at an end of a line, makes a
difference. -/
theorem parse_line_by_line (a b : String) :
    (∀ e, parse a = .error e → parse (a ++ "\n" ++ b) = .error e) ∧
    (∀ ds e, parse a = .ok ds → parse b = .error e →
      parse (a ++ "\n" ++ b) = .error (e.below (lineCount a)) ∧
      (e.below (lineCount a)).causeKind = e.causeKind ∧
      (e = .numeralTooLong ∧ e.below (lineCount a) = e ∨
        ∃ line rest, e.line? = some line ∧
          (e.below (lineCount a)).line? = some (line + (lineCount a : Int)) ∧
          e.wording? = some ("line " ++ toString line ++ rest) ∧
          (e.below (lineCount a)).wording? =
            some ("line " ++ toString (line + (lineCount a : Int)) ++ rest))) ∧
    (∀ ds ds', parse a = .ok ds → parse b = .ok ds' →
      parse (a ++ "\n" ++ b) = .ok (ds ++ ds'.map (Declaration.below (lineCount a)))) ∧
    ∀ padded, Relation.EqvGen Pads a padded → parse padded = parse a := by
  have hjoined := parse_append a b
  refine ⟨fun e he ↦ ?_, fun ds e hds he ↦ ⟨?_, e.causeKind_below (lineCount a), ?_⟩,
    fun ds ds' hds hds' ↦ ?_, fun padded h ↦ ?_⟩
  · rw [hjoined, he]
    rfl
  · rw [hjoined, hds, he]
    rfl
  · rcases declarationsFrom_names_line 1 (lines b) e he with rfl | ⟨line, hline⟩
    · exact .inl ⟨rfl, rfl⟩
    · obtain ⟨rest, hwording, hbelow⟩ := e.exists_wording?_below (lineCount a) hline
      refine .inr ⟨line, rest, hline, ?_, hwording, hbelow⟩
      rw [e.line?_below, hline]
      rfl
  · rw [hjoined, hds, hds']
    rfl
  · rw [parse, parse, lines_of_eqvGen h]

def refusesLength (line : Int) (length : Nat) (text : String) :
    Except Error (List Declaration) → Bool
  | .error (.arrayLength line' length' text') => (line', length', text') == (line, length, text)
  | _ => false

theorem eq_of_refusesLength {line : Int} {length : Nat} {text : String}
    {result : Except Error (List Declaration)} (h : refusesLength line length text result = true) :
    result = .error (.arrayLength line length text) := by
  rw [refusesLength.eq_def] at h
  split at h
  · cases beq_iff_eq.1 h
    rfl
  · cases h

theorem parse_line_by_line_faulty : ∃ upper,
    parse "u8 a\n" = .ok upper ∧ parse "u8[0] b" = .error (.arrayLength 1 0 "u8[0] b") ∧
    parse ("u8 a\n" ++ "\n" ++ "u8[0] b") = .error (.arrayLength 3 0 "u8[0] b") ∧
    parse " u8 a\n" = .ok upper := by
  obtain ⟨upper, hupper⟩ := exists_of_isOk (show (parse "u8 a\n").isOk = true by decide +kernel)
  have hlower : parse "u8[0] b" = .error (.arrayLength 1 0 "u8[0] b") :=
    eq_of_refusesLength (by decide +kernel)
  obtain ⟨-, hfaulty, -, hpadded⟩ := parse_line_by_line "u8 a\n" "u8[0] b"
  have hpads : Pads "u8 a\n" " u8 a\n" :=
    @Pads.before ' ' [] ['u', '8', ' ', 'a', '\n'] rfl (by decide) nofun
  exact ⟨upper, hupper, hlower, (hfaulty upper _ hupper hlower).1,
    (hpadded _ (.rel _ _ hpads)).trans hupper⟩

end Schema

end RecordCodec
