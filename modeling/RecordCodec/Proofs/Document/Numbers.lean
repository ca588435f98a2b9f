import RecordCodec.Proofs.Document.Reader
import RecordCodec.Proofs.Schema.Grammar

namespace RecordCodec

-- Powers of natural numbers are those of the core library.
attribute [local instance (high)] instPowNat

open Schema.Token (takeWhile_append_of_head dropWhile_append_of_head)

namespace Document

def signed (negative : Bool) : List Char :=
  if negative then ['-'] else []

def pointed (fraction : List Char) : List Char :=
  if fraction = [] then [] else '.' :: fraction

def scaled : Option Int → List Char
  | none => []
  | some e => 'e' :: (if e < 0 then '-' else '+') :: Text.paddedDigits 10 2 e.natAbs

def Follows (rest : List Char) : Prop :=
  ∀ c ∈ rest.head?, c = ',' ∨ c = '\n'

def EndsDigits (rest : List Char) : Prop :=
  ∀ c ∈ rest.head?, c.isDigit = false

variable {whole fraction rest : List Char} {exponent? : Option Int} {negative : Bool}

theorem Follows.endsDigits (h : Follows rest) : EndsDigits rest := by
  intro c hc
  rcases h c hc with rfl | rfl <;> decide

theorem readSign_signed (h : rest.head? ≠ some '-') :
    readSign '-' (signed negative ++ rest) = (negative, rest) := by
  cases negative with
  | true => rfl
  | false =>
    cases rest with
    | nil => rfl
    | cons c rest => exact if_neg fun hc ↦ h (congrArg some hc)

theorem readFraction_pointed (hfraction : ∀ c ∈ fraction, c.isDigit = true)
    (hdigits : EndsDigits rest) (hpoint : rest.head? ≠ some '.') :
    readFraction (pointed fraction ++ rest) = some (fraction, rest) := by
  by_cases hempty : fraction = []
  · subst hempty
    cases rest with
    | nil => rfl
    | cons c rest => exact if_neg fun hc ↦ hpoint (congrArg some hc)
  · rw [pointed, if_neg hempty, List.cons_append, readFraction, if_pos rfl]
    simp only [takeWhile_append_of_head hfraction hdigits,
      dropWhile_append_of_head hfraction hdigits, List.isEmpty_iff, if_neg hempty]

theorem isDigit_toDigits (n : Nat) : ∀ c ∈ Nat.toDigits 10 n, c.isDigit = true :=
  fun _ hc ↦ Nat.isDigit_of_mem_toDigits (by decide) (by decide) hc

theorem isDigit_replicate_zero (n : Nat) : ∀ c ∈ List.replicate n '0', c.isDigit = true := by
  intro c hc
  rw [List.eq_of_mem_replicate hc]
  decide

theorem isDigit_paddedDigits (width n : Nat) :
    ∀ c ∈ Text.paddedDigits 10 width n, c.isDigit = true :=
  List.forall_mem_append.2 ⟨isDigit_replicate_zero _, isDigit_toDigits n⟩

theorem ofDigitChars_paddedDigits (width n : Nat) :
    Nat.ofDigitChars 10 (Text.paddedDigits 10 width n) 0 = n := by
  rw [Text.paddedDigits, Nat.ofDigitChars_append, Nat.ofDigitChars_replicate_zero, Nat.mul_zero,
    Nat.ofDigitChars_ten_toDigits]

theorem paddedDigits_ne_nil (width n : Nat) : Text.paddedDigits 10 width n ≠ [] :=
  List.append_ne_nil_of_right_ne_nil _ Nat.toDigits_ne_nil

theorem readExponent_scaled (h : Follows rest) :
    readExponent (scaled exponent? ++ rest) = some (exponent?, rest) := by
  cases exponent? with
  | none =>
    cases rest with
    | nil => rfl
    | cons c rest => rcases h c rfl with rfl | rfl <;> rfl
  | some e =>
    have hdigits := isDigit_paddedDigits 2 e.natAbs
    rw [scaled, List.cons_append, List.cons_append, readExponent, if_pos (.inl rfl)]
    by_cases he : e < 0
    · rw [if_pos he]
      simp only [readSign, takeWhile_append_of_head hdigits h.endsDigits,
        dropWhile_append_of_head hdigits h.endsDigits, List.isEmpty_iff,
        if_neg (paddedDigits_ne_nil 2 e.natAbs), ofDigitChars_paddedDigits, if_true]
      rw [show -(e.natAbs : Int) = e by omega]
    · rw [if_neg he]
      have hsign : readSign '-' ('+' :: (Text.paddedDigits 10 2 e.natAbs ++ rest)) =
          (false, '+' :: (Text.paddedDigits 10 2 e.natAbs ++ rest)) := rfl
      have hplus : readSign '+' ('+' :: (Text.paddedDigits 10 2 e.natAbs ++ rest)) =
          (true, Text.paddedDigits 10 2 e.natAbs ++ rest) := rfl
      simp only [hsign, hplus, takeWhile_append_of_head hdigits h.endsDigits,
        dropWhile_append_of_head hdigits h.endsDigits, List.isEmpty_iff,
        if_neg (paddedDigits_ne_nil 2 e.natAbs), ofDigitChars_paddedDigits, Bool.false_eq_true,
        if_false]
      rw [show (e.natAbs : Int) = e by omega]

theorem endsDigits_scaled (exponent? : Option Int) (h : Follows rest) :
    EndsDigits (scaled exponent? ++ rest) ∧ (scaled exponent? ++ rest).head? ≠ some '.' := by
  cases exponent? with
  | none =>
    refine ⟨h.endsDigits, fun hpoint ↦ ?_⟩
    rcases h '.' hpoint with hc | hc <;> exact absurd hc (by decide)
  | some e =>
    refine ⟨fun c hc ↦ ?_, fun hpoint ↦ ?_⟩
    · cases hc
      decide
    · cases hpoint

theorem endsDigits_pointed (fraction : List Char) (h : EndsDigits rest) :
    EndsDigits (pointed fraction ++ rest) := by
  by_cases hempty : fraction = []
  · rwa [pointed, if_pos hempty]
  · rw [pointed, if_neg hempty]
    intro c hc
    cases hc
    decide

theorem readNumber_parts (negative : Bool) (hwhole : isWhole whole = true)
    (hdigits : ∀ c ∈ whole, c.isDigit = true) (hfraction : ∀ c ∈ fraction, c.isDigit = true)
    (exponent? : Option Int) (h : Follows rest) :
    readNumber (signed negative ++ (whole ++ (pointed fraction ++ (scaled exponent? ++ rest)))) =
      (ofNumber? negative whole fraction exponent?).map (·, rest) := by
  obtain ⟨hends, hpoint⟩ := endsDigits_scaled exponent? h
  have hends' := endsDigits_pointed fraction hends
  have hsign : (whole ++ (pointed fraction ++ (scaled exponent? ++ rest))).head? ≠ some '-' := by
    cases whole with
    | nil => cases hwhole
    | cons c whole =>
      intro hc
      have hdigit := hdigits c List.mem_cons_self
      rw [Option.some.inj hc] at hdigit
      cases hdigit
  rw [readNumber, readSign_signed hsign]
  simp only [takeWhile_append_of_head hdigits hends', dropWhile_append_of_head hdigits hends',
    hwhole, readFraction_pointed hfraction hends hpoint, guard_true, Option.bind_eq_bind,
    Option.pure_def, Option.bind_some, readExponent_scaled h]

theorem ofDigitChars_lt {digits : List Char} (h : ∀ c ∈ digits, c.isDigit = true) :
    Nat.ofDigitChars 10 digits 0 < 10 ^ digits.length := by
  induction digits with
  | nil => decide
  | cons c digits ih =>
    obtain ⟨hc, hdigits⟩ := List.forall_mem_cons.1 h
    have hc : c.toNat ≤ 57 :=
      UInt32.le_iff_toNat_le.1 (of_decide_eq_true (Bool.and_eq_true_iff.1 hc).2)
    have hzero : '0'.toNat = 48 := rfl
    have hle := Nat.mul_le_mul_left (10 ^ digits.length) (show c.toNat - 48 + 1 ≤ 10 by omega)
    have := ih hdigits
    rw [Nat.ofDigitChars_cons, Nat.ofDigitChars_eq_ofDigitChars_zero, List.length_cons,
      Nat.pow_succ, Nat.mul_zero, Nat.zero_add, hzero]
    rw [Nat.mul_add] at hle
    omega

theorem toDigits_head?_ne {n : Nat} (hn : 0 < n) : (Nat.toDigits 10 n).head? ≠ some '0' := by
  intro hzero
  obtain ⟨rest, hrest⟩ := List.head?_eq_some_iff.1 hzero
  have hdigits : ∀ c ∈ rest, c.isDigit = true := fun c hc ↦
    isDigit_toDigits n c (hrest ▸ List.mem_cons_of_mem _ hc)
  -- without the zero there would be fewer digits for the same number
  have hvalue : Nat.ofDigitChars 10 rest 0 = n := by
    have := @Nat.ofDigitChars_ten_toDigits n
    rwa [hrest, Nat.ofDigitChars_cons] at this
  have hlt := hvalue ▸ ofDigitChars_lt hdigits
  cases rest with
  | nil =>
    cases hvalue
    exact Nat.lt_irrefl 0 hn
  | cons c rest =>
    have hlength := (Nat.length_toDigits_le_iff (by decide) (Nat.succ_pos _)).2 hlt
    rw [hrest, List.length_cons] at hlength
    exact Nat.not_succ_le_self _ hlength

theorem isWhole_toDigits (n : Nat) : isWhole (Nat.toDigits 10 n) = true := by
  rcases Nat.eq_zero_or_pos n with rfl | hn
  · rw [Nat.toDigits_zero]
    rfl
  · have hhead := toDigits_head?_ne hn
    cases hdigits : Nat.toDigits 10 n with
    | nil => exact absurd hdigits Nat.toDigits_ne_nil
    | cons c rest =>
      rw [hdigits] at hhead
      have hc : c ≠ '0' := fun hc ↦ hhead (congrArg some hc)
      simp [isWhole, hc]

theorem readNumber_intText (n : Int) (h : Follows rest) :
    readNumber ((intText n).toList ++ rest) = some (int n, rest) := by
  have htext : (intText n).toList ++ rest = signed (decide (n < 0)) ++
      (Nat.toDigits 10 n.natAbs ++ (pointed [] ++ (scaled none ++ rest))) := by
    by_cases hn : n < 0 <;> simp [intText, hn, signed, pointed, scaled]
  rw [htext, readNumber_parts _ (isWhole_toDigits _) (isDigit_toDigits _) (by simp) none h,
    ofNumber?, if_pos ⟨rfl, rfl⟩, Nat.ofDigitChars_ten_toDigits]
  have hn : (if decide (n < 0) = true then -(n.natAbs : Int) else n.natAbs) = n := by
    split
    · rename_i hn
      have := of_decide_eq_true hn
      omega
    · rename_i hn
      have : ¬ n < 0 := fun h ↦ hn (decide_eq_true h)
      omega
  simp only [hn, Option.map_some]

end Document

namespace Decimal

open Document

variable {d : Decimal}

theorem value_mul_pow (n k : Nat) (e : Int) : value ⟨10 ^ k * n, e⟩ = value ⟨n, e + k⟩ := by
  rw [value, value, zpow_add₀ (by norm_num), zpow_natCast]
  push_cast
  ring

theorem exists_toDigits_eq (d : Decimal) :
    ∃ zeros, Nat.toDigits 10 d.digits = d.significant ++ List.replicate zeros '0' := by
  have hsplit := @List.takeWhile_append_dropWhile _ (· == '0') (Nat.toDigits 10 d.digits).reverse
  have hzeros : ((Nat.toDigits 10 d.digits).reverse.takeWhile (· == '0')) =
      List.replicate ((Nat.toDigits 10 d.digits).reverse.takeWhile (· == '0')).length '0' :=
    List.eq_replicate_of_mem fun c hc ↦ by simpa using List.mem_takeWhile_imp hc
  refine ⟨((Nat.toDigits 10 d.digits).reverse.takeWhile (· == '0')).length, ?_⟩
  rw [significant, ← List.reverse_replicate, ← hzeros, ← List.reverse_append, hsplit,
    List.reverse_reverse]

theorem isDigit_significant : ∀ c ∈ d.significant, c.isDigit = true := by
  obtain ⟨zeros, h⟩ := d.exists_toDigits_eq
  exact fun c hc ↦ isDigit_toDigits d.digits c (h ▸ List.mem_append_left _ hc)

theorem exists_significant_cons (hd : 0 < d.digits) :
    ∃ c rest, d.significant = c :: rest ∧ c ≠ '0' := by
  obtain ⟨zeros, h⟩ := d.exists_toDigits_eq
  have hhead := toDigits_head?_ne hd
  cases hdigits : d.significant with
  | nil =>
    rw [h, hdigits, List.nil_append] at hhead
    cases zeros with
    | zero => exact absurd (h.trans (by rw [hdigits]; rfl)) Nat.toDigits_ne_nil
    | succ zeros => exact absurd rfl hhead
  | cons c rest =>
    rw [h, hdigits] at hhead
    exact ⟨c, rest, rfl, fun hc ↦ hhead (congrArg some hc)⟩

theorem value_significant (d : Decimal) : d.value =
    value ⟨Nat.ofDigitChars 10 d.significant 0, d.leading + 1 - d.significant.length⟩ := by
  obtain ⟨zeros, h⟩ := d.exists_toDigits_eq
  have hdigits := @Nat.ofDigitChars_ten_toDigits d.digits
  rw [h, Nat.ofDigitChars_append, Nat.ofDigitChars_replicate_zero] at hdigits
  have hlength := congrArg List.length h
  rw [List.length_append, List.length_replicate] at hlength
  have hexponent : d.leading + 1 - d.significant.length = d.exponent + zeros := by
    rw [leading, hlength]
    omega
  rw [hexponent, ← value_mul_pow, hdigits]

/-- Whether the text of a number has these parts. -/
structure HasParts (d : Decimal) (whole fraction : List Char) (exponent? : Option Int) : Prop where
  text : d.text = whole ++ (pointed fraction ++ scaled exponent?)
  isWhole : Document.isWhole whole = true
  whole_digits : ∀ c ∈ whole, c.isDigit = true
  fraction_digits : ∀ c ∈ fraction, c.isDigit = true
  not_integer : ¬ (fraction = [] ∧ exponent? = none)
  value : Decimal.value ⟨Nat.ofDigitChars 10 (whole ++ fraction) 0,
    exponent?.getD 0 - fraction.length⟩ = d.value

theorem isWhole_of_head {c : Char} (hc : c ≠ '0') (rest : List Char) :
    Document.isWhole (c :: rest) = true := by
  simp [Document.isWhole, hc]

theorem hasParts_small (hd : 0 < d.digits) (hleading : d.leading < 0)
    (htext : d.text = d.positional) :
    d.HasParts ['0'] (List.replicate (-d.leading - 1).toNat '0' ++ d.significant) none where
  text := by
    obtain ⟨c, rest, hsignificant, -⟩ := exists_significant_cons hd
    rw [htext, positional, if_pos hleading, hsignificant]
    simp [pointed, scaled]
  isWhole := rfl
  whole_digits := List.forall_mem_singleton.2 rfl
  fraction_digits := List.forall_mem_append.2 ⟨isDigit_replicate_zero _, isDigit_significant⟩
  not_integer := by
    obtain ⟨c, rest, hsignificant, -⟩ := exists_significant_cons hd
    simp [hsignificant]
  value := by
    rw [value_significant d, ← List.append_assoc, Nat.ofDigitChars_append, List.length_append,
      List.length_replicate, List.singleton_append, ← List.replicate_succ,
      Nat.ofDigitChars_replicate_zero, Nat.mul_zero]
    congr 2
    simp only [Option.getD_none]
    omega

theorem hasParts_whole (hd : 0 < d.digits) (hleading : ¬ d.leading < 0)
    (hlength : d.significant.length ≤ d.leading.toNat + 1) (htext : d.text = d.positional) :
    d.HasParts (d.significant ++ List.replicate (d.leading.toNat + 1 - d.significant.length) '0')
      ['0'] none where
  text := by
    rw [htext, positional, if_neg hleading]
    simp only [if_pos hlength]
    simp [pointed, scaled]
  isWhole := by
    obtain ⟨c, rest, hsignificant, hc⟩ := exists_significant_cons hd
    rw [hsignificant, List.cons_append]
    exact isWhole_of_head hc _
  whole_digits := List.forall_mem_append.2 ⟨isDigit_significant, isDigit_replicate_zero _⟩
  fraction_digits := List.forall_mem_singleton.2 rfl
  not_integer h := by cases h.1
  value := by
    rw [value_significant d, List.append_assoc, Nat.ofDigitChars_append, ← List.replicate_succ',
      Nat.ofDigitChars_replicate_zero, value_mul_pow]
    congr 2
    simp only [Option.getD_none, List.length_singleton]
    omega

theorem hasParts_pointed (hd : 0 < d.digits) (hleading : ¬ d.leading < 0)
    (hlength : ¬ d.significant.length ≤ d.leading.toNat + 1) (htext : d.text = d.positional) :
    d.HasParts (d.significant.take (d.leading.toNat + 1))
      (d.significant.drop (d.leading.toNat + 1)) none where
  text := by
    have hne : d.significant.drop (d.leading.toNat + 1) ≠ [] := by simpa using hlength
    rw [htext, positional, if_neg hleading]
    simp only [if_neg hlength, pointed, if_neg hne, scaled, List.append_nil]
  isWhole := by
    obtain ⟨c, rest, hsignificant, hc⟩ := exists_significant_cons hd
    rw [hsignificant, List.take_succ_cons]
    exact isWhole_of_head hc _
  whole_digits c hc := isDigit_significant c (List.mem_of_mem_take hc)
  fraction_digits c hc := isDigit_significant c (List.mem_of_mem_drop hc)
  not_integer h := hlength (List.drop_eq_nil_iff.1 h.1)
  value := by
    rw [value_significant d, List.take_append_drop, List.length_drop]
    congr 2
    simp only [Option.getD_none]
    omega

theorem hasParts_scientific (hd : 0 < d.digits) (htext : d.text = d.scientific) :
    ∃ digit rest, d.HasParts [digit] rest (some d.leading) := by
  obtain ⟨c, rest, hsignificant, hc⟩ := exists_significant_cons hd
  have hdigits := hsignificant ▸ isDigit_significant (d := d)
  obtain ⟨hcdigit, hrest⟩ := List.forall_mem_cons.1 hdigits
  refine ⟨c, rest, ?_, isWhole_of_head hc [], List.forall_mem_singleton.2 hcdigit, hrest, ?_, ?_⟩
  · rw [htext, scientific, hsignificant]
    cases rest <;> simp [pointed, scaled]
  · exact fun h ↦ Option.some_ne_none _ h.2
  · rw [value_significant d, hsignificant, List.singleton_append, List.length_cons]
    congr 2
    simp only [Option.getD_some]
    omega

theorem exists_hasParts (hd : 0 < d.digits) :
    ∃ whole fraction exponent?, d.HasParts whole fraction exponent? := by
  by_cases hplain : -4 ≤ d.leading ∧ d.leading < 16
  · have htext : d.text = d.positional := if_pos hplain
    by_cases hleading : d.leading < 0
    · exact ⟨_, _, _, hasParts_small hd hleading htext⟩
    · by_cases hlength : d.significant.length ≤ d.leading.toNat + 1
      · exact ⟨_, _, _, hasParts_whole hd hleading hlength htext⟩
      · exact ⟨_, _, _, hasParts_pointed hd hleading hlength htext⟩
  · obtain ⟨digit, rest, h⟩ := hasParts_scientific hd (if_neg hplain)
    exact ⟨_, _, _, h⟩

end Decimal

namespace Document

open BinaryFormat Binary64

variable {rest : List Char} {g : Nat} {x : Binary64}

/-- The digits of a finite magnitude are read as the magnitude. -/
theorem readNumber_magnitudeText (negative : Bool) (hg : g < double.infinity) (h : Follows rest) :
    readNumber (signed negative ++ (magnitudeText g ++ rest)) =
      some (float (ofMagnitude negative g), rest) := by
  rcases Nat.eq_zero_or_pos g with rfl | hpos
  · have hzero : Decimal.value ⟨Nat.ofDigitChars 10 (['0'] ++ ['0']) 0, -1⟩ = 0 := by
      rw [Decimal.value]
      simp [Nat.ofDigitChars_cons]
    have htext : magnitudeText 0 ++ rest = ['0'] ++ (pointed ['0'] ++ (scaled none ++ rest)) := rfl
    have hdigit : ∀ c ∈ ['0'], c.isDigit = true := List.forall_mem_singleton.2 rfl
    rw [htext, readNumber_parts negative rfl hdigit hdigit none h, ofNumber?, if_neg (by simp)]
    simp only [Option.getD_none, List.length_singleton]
    rw [show (0 : Int) - (1 : Nat) = -1 by rfl, hzero, nearestMagnitude?, if_pos rfl]
    rfl
  · obtain ⟨whole, fraction, exponent?, hparts⟩ :=
      Decimal.exists_hasParts (digits_shortestMagnitude_pos hpos)
    rw [magnitudeText, if_neg (Nat.ne_of_gt hpos), hparts.text, List.append_assoc,
      List.append_assoc, readNumber_parts negative hparts.isWhole hparts.whole_digits
        hparts.fraction_digits exponent? h, ofNumber?, if_neg hparts.not_integer]
    simp only [hparts.value,
      nearestMagnitude?_of_contains hg hpos (contains_shortestMagnitude hpos), Option.map_some]

theorem textWith_of_isFinite (infinite notANumber : String) (hx : x.isFinite = true) :
    (x.textWith infinite notANumber).toList = signed x.negative ++ magnitudeText x.magnitude := by
  have hlt : x.magnitude < double.infinity := of_decide_eq_true hx
  have hnan : x.isNaN = false := decide_eq_false (by omega)
  have hinfinite : x.isInfinite = false := beq_eq_false_iff_ne.2 (by omega)
  rw [textWith, hnan, hinfinite]
  cases x.negative <;> simp [signed]

theorem readNumber_float (infinite notANumber : String) (hx : x.isFinite = true)
    (h : Follows rest) : readNumber ((x.textWith infinite notANumber).toList ++ rest) =
      some (float x, rest) := by
  rw [textWith_of_isFinite infinite notANumber hx, List.append_assoc,
    readNumber_magnitudeText x.negative (of_decide_eq_true hx) h, ofMagnitude_magnitude]

end Document

end RecordCodec
