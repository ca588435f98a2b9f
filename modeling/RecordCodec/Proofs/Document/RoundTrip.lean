import RecordCodec.Proofs.Document.Numbers
import RecordCodec.Proofs.Document.Strings

namespace RecordCodec.Document

open Schema.Token (takeWhile_append_of_head dropWhile_append_of_head)

mutual

def isFinite : Document → Bool
  | float x => x.isFinite
  | array items => areFinite items
  | object entries => areEntriesFinite entries
  | _ => true

def areFinite : List Document → Bool
  | [] => true
  | d :: rest => isFinite d && areFinite rest

def areEntriesFinite : List (String × Document) → Bool
  | [] => true
  | (_, d) :: rest => isFinite d && areEntriesFinite rest

end

theorem areFinite_cons (d : Document) (rest : List Document) :
    areFinite (d :: rest) = (isFinite d && areFinite rest) := by
  rw [areFinite]

theorem areEntriesFinite_cons (key : String) (d : Document) (rest : List (String × Document)) :
    areEntriesFinite ((key, d) :: rest) = (isFinite d && areEntriesFinite rest) := by
  rw [areEntriesFinite]

variable {c : Char} {source gap rest : List Char} {fuel : Nat}

theorem skip_append (h : ∀ c ∈ gap, isBlank c = true) (source : List Char) :
    skip (gap ++ source) = skip source :=
  List.dropWhile_append_of_pos h

theorem skip_of_not_isBlank (h : isBlank c = false) (rest : List Char) :
    skip (c :: rest) = c :: rest :=
  List.dropWhile_cons_of_neg (by simp [h])

theorem isBlank_lineStart (level : Nat) : ∀ c ∈ lineStart level, isBlank c = true := by
  intro c hc
  rcases List.mem_cons.1 hc with rfl | hc
  · rfl
  · rw [List.eq_of_mem_replicate hc]
    rfl

theorem skip_lineStart (level : Nat) (h : isBlank c = false) (rest : List Char) :
    skip (lineStart level ++ c :: rest) = c :: rest := by
  rw [skip_append (isBlank_lineStart level), skip_of_not_isBlank h]

theorem readValue_append (h : ∀ c ∈ gap, isBlank c = true) (fuel : Nat) (source : List Char) :
    readValue fuel (gap ++ source) = readValue fuel source := by
  cases fuel with
  | zero => rfl
  | succ fuel => rw [readValue, readValue, skip_append h]

theorem readValue_plain (hblank : isBlank c = false) (harray : c ≠ '[') (hobject : c ≠ '\x7b')
    (fuel : Nat) (rest : List Char) : readValue (fuel + 1) (c :: rest) = readPlain (c :: rest) := by
  rw [readValue, skip_of_not_isBlank hblank]
  simp only [if_neg harray, if_neg hobject]

theorem head_of_readNumber {r : Document × List Char} (h : readNumber (c :: rest) = some r) :
    c = '-' ∨ c.isDigit = true := by
  by_cases hsign : c = '-'
  · exact .inl hsign
  · by_cases hdigit : c.isDigit = true
    · exact .inr hdigit
    · simp [readNumber, readSign, hsign, hdigit, isWhole] at h

theorem not_isBlank_of {p : Char → Bool} (h : p c = true)
    (hp : [' ', '\t', '\n', '\r'].any p = false) : isBlank c = false := by
  rw [Bool.eq_false_iff]
  intro hblank
  have hmem : c ∈ [' ', '\t', '\n', '\r'] := by simpa [isBlank, or_assoc] using hblank
  rw [List.any_eq_false] at hp
  exact hp c hmem h

theorem readValue_eq_readNumber (h : c = '-' ∨ c.isDigit = true) (fuel : Nat) (rest : List Char) :
    readValue (fuel + 1) (c :: rest) = readNumber (c :: rest) := by
  rcases h with rfl | h
  · rw [readValue_plain rfl (by decide) (by decide), readPlain, if_neg (by decide),
      if_neg (by decide)]
  · have hne {d : Char} (hd : d.isDigit = false) : c ≠ d := by
      rintro rfl
      rw [h] at hd
      cases hd
    have halpha : c.isAlpha = false :=
      (Bool.or_eq_false_iff.1 (Schema.not_isInitial_of_isDigit h)).1
    rw [readValue_plain (not_isBlank_of h rfl) (hne rfl) (hne rfl), readPlain, if_neg (hne rfl),
      halpha, if_neg Bool.false_ne_true]

theorem readValue_number {r : Document × List Char} (h : readNumber source = some r)
    (fuel : Nat) : readValue (fuel + 1) source = some r := by
  cases source with
  | nil => cases h
  | cons c rest => rw [readValue_eq_readNumber (head_of_readNumber h), h]

theorem readValue_word {word : List Char} (hne : word ≠ [])
    (hword : ∀ c ∈ word, c.isAlpha = true) (h : Follows rest) (fuel : Nat) :
    readValue (fuel + 1) (word ++ rest) = (ofWord? word).map (·, rest) := by
  have hends : ∀ c ∈ rest.head?, c.isAlpha = false := by
    intro c hc
    rcases h c hc with rfl | rfl <;> rfl
  obtain ⟨c, cs, rfl⟩ := List.exists_cons_of_ne_nil hne
  have hc := hword c List.mem_cons_self
  have hne {d : Char} (hd : d.isAlpha = false) : c ≠ d := by
    rintro rfl
    rw [hc] at hd
    cases hd
  have htake := takeWhile_append_of_head hword hends
  have hdrop := dropWhile_append_of_head hword hends
  rw [List.cons_append] at htake hdrop ⊢
  rw [readValue_plain (not_isBlank_of hc rfl) (hne rfl) (hne rfl), readPlain, if_neg (hne rfl),
    if_pos hc, htake, hdrop]

theorem readValue_quote (s : String) (fuel : Nat) (rest : List Char) :
    readValue (fuel + 1) (quote s ++ rest) = some (text s, rest) := by
  have hquote : quote s ++ rest = '\x22' :: (s.toList.flatMap escape ++ '\x22' :: rest) := by
    simp [quote]
  rw [hquote, readValue_plain rfl (by decide) (by decide), readPlain, if_pos rfl,
    readString_quoted]
  rfl

theorem textWith_of_not_isFinite (x : Binary64) (hx : ¬ x.isFinite = true) :
    (x.textWith "Infinity" "NaN").toList = "NaN".toList ∨
      (x.textWith "Infinity" "NaN").toList = signed x.negative ++ "Infinity".toList := by
  rw [Binary64.textWith]
  by_cases hnan : x.isNaN = true
  · rw [if_pos hnan]
    exact .inl rfl
  · have hle : ¬ BinaryFormat.double.infinity < x.magnitude := fun h ↦ hnan (decide_eq_true h)
    have hge : ¬ x.magnitude < BinaryFormat.double.infinity := fun h ↦ hx (decide_eq_true h)
    have hinfinite : x.isInfinite = true := beq_iff_eq.2 (by omega)
    rw [if_neg hnan, if_pos hinfinite]
    cases x.negative <;> exact .inr rfl

theorem readValue_float (x : Binary64) (h : Follows rest) (fuel : Nat) :
    readValue (fuel + 1) ((x.textWith "Infinity" "NaN").toList ++ rest) =
      if x.isFinite then some (float x, rest) else none := by
  by_cases hx : x.isFinite = true
  · rw [if_pos hx]
    exact readValue_number (readNumber_float _ _ hx h) fuel
  · rw [if_neg hx]
    rcases textWith_of_not_isFinite x hx with htext | htext
    · rw [htext]
      exact readValue_word (by decide) (List.all_eq_true.1 rfl) h fuel
    · rw [htext]
      cases x.negative with
      | false => exact readValue_word (by decide) (List.all_eq_true.1 rfl) h fuel
      | true => exact readValue_eq_readNumber (.inl rfl) fuel _

section Steps

variable {d : Document} {key : String} {after last : List Char} {b b' : Bool}

theorem readValue_array (h : (skip rest).head? ≠ some ']') :
    readValue (fuel + 1) ('[' :: rest) = (readItems fuel rest).map (Prod.map array id) := by
  rw [readValue, skip_of_not_isBlank rfl]
  simp only [if_true, if_neg h]

theorem readValue_object (h : (skip rest).head? ≠ some '\x7d') :
    readValue (fuel + 1) ('\x7b' :: rest) = (readEntries fuel rest).map (Prod.map object id) := by
  rw [readValue, skip_of_not_isBlank rfl]
  simp only [if_neg (show ¬ '\x7b' = '[' by decide), if_true, if_neg h]

theorem readItems_last (h : readValue fuel source = if b then some (d, after) else none)
    (hafter : skip after = ']' :: rest) :
    readItems (fuel + 1) source = if b then some ([d], rest) else none := by
  rw [readItems, h]
  cases b with
  | false => rfl
  | true => simp [hafter]

theorem readItems_more {items : List Document}
    (h : readValue fuel source = if b then some (d, after) else none)
    (hafter : skip after = ',' :: rest)
    (hrest : readItems fuel rest = if b' then some (items, last) else none) :
    readItems (fuel + 1) source = if b && b' then some (d :: items, last) else none := by
  rw [readItems, h]
  cases b with
  | false => rfl
  | true => cases b' <;> simp [hafter, hrest]

theorem readKey_quote (key : String) (rest : List Char) :
    readKey (quote key ++ ':' :: rest) = some (key, rest) := by
  have hquote : quote key ++ ':' :: rest =
      '\x22' :: (key.toList.flatMap escape ++ '\x22' :: ':' :: rest) := by
    simp [quote]
  rw [hquote, readKey, if_pos rfl, readString_quoted]
  rfl

theorem readEntries_eq (level : Nat) (key : String) (source : List Char) :
    readEntries (fuel + 1) (lineStart level ++ (quote key ++ ':' :: ' ' :: source)) =
      (readValue fuel source).bind fun r ↦ match skip r.2 with
        | [] => none
        | c :: rest =>
          if c = ',' then (readEntries fuel rest).map (Prod.map ((key, r.1) :: ·) id)
          else if c = '\x7d' then some ([(key, r.1)], rest)
          else none := by
  have hskip : skip (lineStart level ++ (quote key ++ ':' :: ' ' :: source)) =
      quote key ++ ':' :: ' ' :: source :=
    skip_lineStart level rfl _
  have hspace : ∀ c ∈ [' '], isBlank c = true := List.forall_mem_singleton.2 rfl
  have hblank : readValue fuel (' ' :: source) = readValue fuel source :=
    readValue_append hspace fuel source
  rw [readEntries, hskip, readKey_quote, ← hblank]
  rfl

theorem readEntries_last (h : readValue fuel source = if b then some (d, after) else none)
    (hafter : skip after = '\x7d' :: rest) (level : Nat) (key : String) :
    readEntries (fuel + 1) (lineStart level ++ (quote key ++ ':' :: ' ' :: source)) =
      if b then some ([(key, d)], rest) else none := by
  rw [readEntries_eq, h]
  cases b with
  | false => rfl
  | true => simp [hafter]

theorem readEntries_more {entries : List (String × Document)}
    (h : readValue fuel source = if b then some (d, after) else none)
    (hafter : skip after = ',' :: rest)
    (hrest : readEntries fuel rest = if b' then some (entries, last) else none)
    (level : Nat) (key : String) :
    readEntries (fuel + 1) (lineStart level ++ (quote key ++ ':' :: ' ' :: source)) =
      if b && b' then some ((key, d) :: entries, last) else none := by
  rw [readEntries_eq, h]
  cases b with
  | false => rfl
  | true => cases b' <;> simp [hafter, hrest]

end Steps

def body (level : Nat) (parts : List (List Char)) : List Char :=
  List.intercalate [','] (parts.map (lineStart level ++ ·))

theorem body_singleton (level : Nat) (part : List Char) :
    body level [part] = lineStart level ++ part := by
  simp [body, List.intercalate]

theorem body_cons (level : Nat) (part : List Char) {parts : List (List Char)} (h : parts ≠ []) :
    body level (part :: parts) = lineStart level ++ part ++ ',' :: body level parts := by
  cases parts with
  | nil => exact absurd rfl h
  | cons next parts => simp [body, List.intercalate]

theorem exists_body_eq (level : Nat) (part : List Char) (parts : List (List Char)) :
    ∃ others, body level (part :: parts) = lineStart level ++ (part ++ others) := by
  by_cases h : parts = []
  · subst h
    exact ⟨[], by rw [body_singleton, List.append_nil]⟩
  · exact ⟨_, by rw [body_cons level part h, List.append_assoc]⟩

theorem enclose_append (left right : Char) (level : Nat) {parts : List (List Char)}
    (h : parts ≠ []) (rest : List Char) : enclose left right level parts ++ rest =
      left :: (body (level + 1) parts ++ (lineStart level ++ right :: rest)) := by
  have hparts : ¬ parts.isEmpty = true := by simpa using h
  rw [enclose, if_neg hparts]
  simp [body]

theorem length_body_lt (left right : Char) (level : Nat) {parts : List (List Char)}
    (h : parts ≠ []) :
    (body (level + 1) parts).length < (enclose left right level parts).length := by
  have htext := congrArg List.length (enclose_append left right level h [])
  simp only [List.length_append, List.length_cons] at htext
  omega

theorem exists_enclose_eq_cons (left right : Char) (level : Nat) (parts : List (List Char)) :
    ∃ rest, enclose left right level parts = left :: rest := by
  rw [enclose]
  split
  · exact ⟨_, rfl⟩
  · exact ⟨_, rfl⟩

theorem follows_nil : Follows [] := by
  rintro c hc
  cases hc

theorem follows_comma (rest : List Char) : Follows (',' :: rest) := by
  rintro c hc
  cases hc
  exact .inl rfl

theorem follows_lineStart (level : Nat) (rest : List Char) : Follows (lineStart level ++ rest) := by
  rintro c hc
  cases hc
  exact .inr rfl

def StartsValue (source : List Char) : Prop :=
  ∃ c rest, source = c :: rest ∧ isBlank c = false ∧ c ≠ ']'

theorem startsValue_of_readNumber {r : Document × List Char} (h : readNumber source = some r) :
    StartsValue source := by
  cases source with
  | nil => cases h
  | cons c rest =>
    rcases head_of_readNumber h with rfl | hdigit
    · exact ⟨_, _, rfl, rfl, by decide⟩
    · refine ⟨_, _, rfl, not_isBlank_of hdigit rfl, ?_⟩
      rintro rfl
      cases hdigit

theorem startsValue_charsAt (level : Nat) (d : Document) : StartsValue (charsAt level d) := by
  cases d with
  | null => exact ⟨_, _, rfl, rfl, by decide⟩
  | bool b => cases b <;> exact ⟨_, _, rfl, rfl, by decide⟩
  | int n =>
    have h := startsValue_of_readNumber (readNumber_intText n follows_nil)
    rwa [List.append_nil] at h
  | float x =>
    by_cases hx : x.isFinite = true
    · have h := startsValue_of_readNumber (readNumber_float "Infinity" "NaN" hx follows_nil)
      rwa [List.append_nil] at h
    · rcases textWith_of_not_isFinite x hx with htext | htext
      · exact ⟨_, _, htext, rfl, by decide⟩
      · cases hnegative : x.negative <;> rw [hnegative] at htext <;>
          exact ⟨_, _, htext, rfl, by decide⟩
  | text s => exact ⟨_, _, rfl, rfl, by decide⟩
  | array items =>
    obtain ⟨rest, hrest⟩ := exists_enclose_eq_cons '[' ']' level (charsOfItems (level + 1) items)
    exact ⟨_, _, hrest, rfl, by decide⟩
  | object entries =>
    obtain ⟨rest, hrest⟩ :=
      exists_enclose_eq_cons '\x7b' '\x7d' level (charsOfEntries (level + 1) entries)
    exact ⟨_, _, hrest, rfl, by decide⟩

theorem head?_skip_body {part : List Char} (h : StartsValue part) (level : Nat)
    (parts : List (List Char)) (source : List Char) :
    (skip (body level (part :: parts) ++ source)).head? ≠ some ']' := by
  obtain ⟨others, hbody⟩ := exists_body_eq level part parts
  obtain ⟨c, rest, rfl, hblank, hc⟩ := h
  rw [hbody, List.append_assoc, List.cons_append, List.cons_append, skip_lineStart level hblank]
  exact fun h ↦ hc (Option.some.inj h)

mutual

/-- The text of a document is read as the document, with the text behind it left, if all its
doubles are finite; otherwise it is not read. -/
theorem readValue_charsAt (level fuel : Nat) : (d : Document) → (rest : List Char) →
    Follows rest → (charsAt level d).length < fuel →
    readValue fuel (charsAt level d ++ rest) = if d.isFinite then some (d, rest) else none
  | null, rest, h, hfuel => by
    obtain ⟨fuel, rfl⟩ := Nat.exists_eq_add_of_lt hfuel
    exact readValue_word (List.cons_ne_nil _ _) (List.all_eq_true.1 rfl) h _
  | bool b, rest, h, hfuel => by
    obtain ⟨fuel, rfl⟩ := Nat.exists_eq_add_of_lt hfuel
    cases b with
    | false => exact readValue_word (List.cons_ne_nil _ _) (List.all_eq_true.1 rfl) h _
    | true => exact readValue_word (List.cons_ne_nil _ _) (List.all_eq_true.1 rfl) h _
  | int n, rest, h, hfuel => by
    obtain ⟨fuel, rfl⟩ := Nat.exists_eq_add_of_lt hfuel
    exact readValue_number (readNumber_intText n h) _
  | float x, rest, h, hfuel => by
    obtain ⟨fuel, rfl⟩ := Nat.exists_eq_add_of_lt hfuel
    exact readValue_float x h _
  | text s, rest, h, hfuel => by
    obtain ⟨fuel, rfl⟩ := Nat.exists_eq_add_of_lt hfuel
    exact readValue_quote s _ rest
  | array [], rest, h, hfuel => by
    obtain ⟨fuel, rfl⟩ := Nat.exists_eq_add_of_lt hfuel
    rw [readValue]
    rfl
  | array (d :: items), rest, h, hfuel => by
    have hparts : charsOfItems (level + 1) (d :: items) ≠ [] := List.cons_ne_nil _ _
    have hlength := length_body_lt '[' ']' level hparts
    obtain ⟨fuel, rfl⟩ : ∃ k, fuel = k + 1 := Nat.exists_eq_succ_of_ne_zero (by omega)
    have hitems := readItems_body level fuel (d :: items) (List.cons_ne_nil _ _) rest
      (by rw [charsAt] at hfuel; omega)
    have hhead := head?_skip_body (startsValue_charsAt (level + 1) d) (level + 1)
      (charsOfItems (level + 1) items) (lineStart level ++ ']' :: rest)
    rw [← charsOfItems] at hhead
    rw [charsAt, enclose_append '[' ']' level hparts, readValue_array hhead, hitems, isFinite]
    cases areFinite (d :: items) <;> rfl
  | object [], rest, h, hfuel => by
    obtain ⟨fuel, rfl⟩ := Nat.exists_eq_add_of_lt hfuel
    rw [readValue]
    rfl
  | object ((key, d) :: entries), rest, h, hfuel => by
    have hparts : charsOfEntries (level + 1) ((key, d) :: entries) ≠ [] := List.cons_ne_nil _ _
    have hlength := length_body_lt '\x7b' '\x7d' level hparts
    obtain ⟨fuel, rfl⟩ : ∃ k, fuel = k + 1 := Nat.exists_eq_succ_of_ne_zero (by omega)
    have hentries := readEntries_body level fuel ((key, d) :: entries) (List.cons_ne_nil _ _) rest
      (by rw [charsAt] at hfuel; omega)
    have hhead : (skip (body (level + 1) (charsOfEntries (level + 1) ((key, d) :: entries)) ++
        (lineStart level ++ '\x7d' :: rest))).head? ≠ some '\x7d' := by
      obtain ⟨others, hbody⟩ := exists_body_eq (level + 1)
        (quote key ++ ':' :: ' ' :: charsAt (level + 1) d) (charsOfEntries (level + 1) entries)
      rw [charsOfEntries, hbody, List.append_assoc, quote, List.append_assoc, List.cons_append,
        List.cons_append, List.cons_append, skip_lineStart _ rfl]
      simp
    rw [charsAt, enclose_append '\x7b' '\x7d' level hparts, readValue_object hhead, hentries,
      isFinite]
    cases areEntriesFinite ((key, d) :: entries) <;> rfl

theorem readItems_body (level fuel : Nat) : (items : List Document) → items ≠ [] →
    (rest : List Char) → (body (level + 1) (charsOfItems (level + 1) items)).length < fuel →
    readItems fuel (body (level + 1) (charsOfItems (level + 1) items) ++
        (lineStart level ++ ']' :: rest)) =
      if areFinite items then some (items, rest) else none
  | [], hne, _, _ => absurd rfl hne
  | [d], _, rest, hfuel => by
    rw [charsOfItems, charsOfItems, body_singleton, List.length_append] at hfuel
    obtain ⟨fuel, rfl⟩ : ∃ k, fuel = k + 1 := Nat.exists_eq_succ_of_ne_zero (by omega)
    have hvalue := readValue_charsAt (level + 1) fuel d (lineStart level ++ ']' :: rest)
      (follows_lineStart level _) (by rw [lineStart, List.length_cons] at hfuel; omega)
    rw [← readValue_append (isBlank_lineStart (level + 1))] at hvalue
    rw [charsOfItems, charsOfItems, body_singleton, List.append_assoc, areFinite_cons, areFinite,
      Bool.and_true]
    exact readItems_last hvalue (skip_lineStart level rfl rest)
  | d :: next :: items, _, rest, hfuel => by
    have hparts : charsOfItems (level + 1) (next :: items) ≠ [] := List.cons_ne_nil _ _
    rw [charsOfItems, body_cons _ _ hparts] at hfuel ⊢
    simp only [List.length_append, List.length_cons] at hfuel
    obtain ⟨fuel, rfl⟩ : ∃ k, fuel = k + 1 := Nat.exists_eq_succ_of_ne_zero (by omega)
    have hvalue := readValue_charsAt (level + 1) fuel d
      (',' :: (body (level + 1) (charsOfItems (level + 1) (next :: items)) ++
        (lineStart level ++ ']' :: rest)))
      (follows_comma _) (by rw [lineStart, List.length_cons] at hfuel; omega)
    have hothers := readItems_body level fuel (next :: items) (List.cons_ne_nil _ _) rest (by omega)
    rw [← readValue_append (isBlank_lineStart (level + 1))] at hvalue
    rw [List.append_assoc, List.append_assoc, List.cons_append, areFinite_cons d]
    exact readItems_more hvalue (skip_of_not_isBlank rfl _) hothers

theorem readEntries_body (level fuel : Nat) : (entries : List (String × Document)) →
    entries ≠ [] → (rest : List Char) →
    (body (level + 1) (charsOfEntries (level + 1) entries)).length < fuel →
    readEntries fuel (body (level + 1) (charsOfEntries (level + 1) entries) ++
        (lineStart level ++ '\x7d' :: rest)) =
      if areEntriesFinite entries then some (entries, rest) else none
  | [], hne, _, _ => absurd rfl hne
  | [(key, d)], _, rest, hfuel => by
    rw [charsOfEntries, charsOfEntries, body_singleton, List.length_append, List.length_append,
      List.length_cons] at hfuel
    obtain ⟨fuel, rfl⟩ : ∃ k, fuel = k + 1 := Nat.exists_eq_succ_of_ne_zero (by omega)
    have hvalue := readValue_charsAt (level + 1) fuel d (lineStart level ++ '\x7d' :: rest)
      (follows_lineStart level _) (by rw [List.length_cons] at hfuel; omega)
    rw [charsOfEntries, charsOfEntries, body_singleton, List.append_assoc, List.append_assoc,
      List.cons_append, List.cons_append, areEntriesFinite_cons, areEntriesFinite, Bool.and_true]
    exact readEntries_last hvalue (skip_lineStart level rfl rest) (level + 1) key
  | (key, d) :: next :: entries, _, rest, hfuel => by
    have hparts : charsOfEntries (level + 1) (next :: entries) ≠ [] := List.cons_ne_nil _ _
    rw [charsOfEntries, body_cons _ _ hparts] at hfuel ⊢
    simp only [List.length_append, List.length_cons] at hfuel
    obtain ⟨fuel, rfl⟩ : ∃ k, fuel = k + 1 := Nat.exists_eq_succ_of_ne_zero (by omega)
    have hvalue := readValue_charsAt (level + 1) fuel d
      (',' :: (body (level + 1) (charsOfEntries (level + 1) (next :: entries)) ++
        (lineStart level ++ '\x7d' :: rest)))
      (follows_comma _) (by omega)
    have hothers :=
      readEntries_body level fuel (next :: entries) (List.cons_ne_nil _ _) rest (by omega)
    simp only [List.append_assoc, List.cons_append] at hvalue ⊢
    rw [areEntriesFinite_cons key d]
    exact readEntries_more hvalue (skip_of_not_isBlank rfl _) hothers (level + 1) key

end

/-- Blanks behind what is printed do not count. -/
theorem parse_append (d : Document) (hfollows : Follows gap)
    (hblank : ∀ c ∈ gap, isBlank c = true) :
    parse (d.print ++ String.ofList gap) = if d.isFinite then some d else none := by
  have hlength : (d.print ++ String.ofList gap).length = (charsAt 0 d).length + gap.length := by
    rw [String.length_append, print, String.length_ofList, String.length_ofList]
  have hvalue := readValue_charsAt 0 ((d.print ++ String.ofList gap).length + 1) d gap hfollows
    (by omega)
  have hskip : skip gap = [] := by
    have hskip := skip_append hblank []
    rwa [List.append_nil] at hskip
  rw [parse, String.toList_append, print, String.toList_ofList, String.toList_ofList, ← print,
    hvalue]
  cases d.isFinite with
  | false => rfl
  | true => simp [hskip]

theorem parse_print_line (d : Document) :
    parse (d.print ++ "\n") = if d.isFinite then some d else none :=
  d.parse_append (follows_lineStart 0 []) (isBlank_lineStart 0)

/-- The reader is no more generous than the grammar: a zero in front, a comma too many, half of a
pair of surrogates and a second value are refused. -/
example : ["[01]", "[1,]", "\"\\ud800\"", "1 2"].all (fun source ↦ (parse source).isNone) =
    true := by
  decide +kernel

end RecordCodec.Document
