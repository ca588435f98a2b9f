import RecordCodec.Proofs.Document.Reader

namespace RecordCodec.Document

variable {n : Nat} {c : Char} {source rest : List Char} {us : List Nat}

theorem readUnits_mark (source : List Char) : readUnits ('\x22' :: source) = some ([], source) := by
  rw [readUnits.eq_def]
  exact if_pos rfl

theorem readUnits_plain (hmark : c ≠ '\x22') (hbackslash : c ≠ '\\') (hc : ' ' ≤ c)
    (source : List Char) :
    readUnits (c :: source) = (readUnits source).map (Prod.map (units c ++ ·) id) := by
  rw [readUnits.eq_def]
  simp only [if_neg hmark, if_neg hbackslash, if_neg (Char.not_lt.2 hc)]

theorem readUnits_short (hc : shortEscape? c = some n) (source : List Char) :
    readUnits ('\\' :: c :: source) = (readUnits source).map (Prod.map (n :: ·) id) := by
  have hu : c ≠ 'u' := by
    rintro rfl
    cases hc
  rw [readUnits.eq_3 _ _ _ fun _ _ _ _ _ h ↦ absurd h hu, if_neg (by decide), if_pos rfl, hc]
  rfl

theorem hexDigit?_digitChar : ∀ n < 16, hexDigit? (Nat.digitChar n) = some n := by
  decide

theorem paddedDigits_eq (h : n < 0x10000) : Text.paddedDigits 16 4 n =
    [Nat.digitChar (n / 4096), Nat.digitChar (n / 256 % 16), Nat.digitChar (n / 16 % 16),
      Nat.digitChar (n % 16)] := by
  have hbase : 1 < 16 := by decide
  have hdiv : n / 16 / 16 = n / 256 := Nat.div_div_eq_div_mul n 16 16
  have hdiv' : n / 256 / 16 = n / 4096 := Nat.div_div_eq_div_mul n 256 16
  rw [Text.paddedDigits]
  by_cases h₁ : n < 16
  · rw [Nat.toDigits_of_lt_base h₁, show n / 4096 = 0 by omega, show n / 256 = 0 by omega,
      show n / 16 = 0 by omega, Nat.mod_eq_of_lt h₁]
    rfl
  rw [Nat.toDigits_of_base_le hbase (Nat.not_lt.1 h₁)]
  by_cases h₂ : n / 16 < 16
  · rw [Nat.toDigits_of_lt_base h₂, show n / 4096 = 0 by omega, show n / 256 = 0 by omega,
      Nat.mod_eq_of_lt h₂]
    rfl
  rw [Nat.toDigits_of_base_le hbase (Nat.not_lt.1 h₂), hdiv]
  by_cases h₃ : n / 256 < 16
  · rw [Nat.toDigits_of_lt_base h₃, show n / 4096 = 0 by omega, Nat.mod_eq_of_lt h₃]
    rfl
  rw [Nat.toDigits_of_base_le hbase (Nat.not_lt.1 h₃), hdiv',
    Nat.toDigits_of_lt_base (show n / 4096 < 16 by omega)]
  rfl

theorem hexUnit?_paddedDigits (h : n < 0x10000) :
    hexUnit? (Text.paddedDigits 16 4 n) = some n := by
  rw [paddedDigits_eq h, hexUnit?]
  simp only [List.mapM_cons, List.mapM_nil, hexDigit?_digitChar _ (show n / 4096 < 16 by omega),
    hexDigit?_digitChar _ (Nat.mod_lt _ (show 0 < 16 by decide))]
  simp
  omega

theorem readUnits_escapeUnit (h : n < 0x10000) (source : List Char) :
    readUnits (escapeUnit n ++ source) = (readUnits source).map (Prod.map (n :: ·) id) := by
  have hunit := hexUnit?_paddedDigits h
  rw [paddedDigits_eq h] at hunit
  rw [escapeUnit, paddedDigits_eq h]
  simp only [List.cons_append, List.nil_append]
  rw [readUnits, if_neg (by decide), if_pos rfl]
  simp only [hunit]
  rfl

theorem readUnits_escapeUnits (hunits : ∀ n ∈ us, n < 0x10000) (source : List Char) :
    readUnits (us.flatMap escapeUnit ++ source) =
      (readUnits source).map (Prod.map (us ++ ·) id) := by
  induction us with
  | nil =>
    rw [List.flatMap_nil, List.nil_append]
    exact Option.map_id'.symm
  | cons n us ih =>
    obtain ⟨hn, hus⟩ := List.forall_mem_cons.1 hunits
    rw [List.flatMap_cons, List.append_assoc, readUnits_escapeUnit hn, ih hus, Option.map_map]
    rfl

theorem toNat_lt (c : Char) : c.toNat < 0xD800 ∨ 0xE000 ≤ c.toNat ∧ c.toNat < 0x110000 := by
  rcases c.valid with h | ⟨hlow, hhigh⟩
  · exact .inl h
  · exact .inr ⟨hlow, hhigh⟩

theorem units_lt (c : Char) : ∀ n ∈ units c, n < 0x10000 := by
  have hc := toNat_lt c
  simp only [units]
  generalize c.toNat = k at hc
  intro n hn
  split at hn
  · rw [List.mem_singleton.1 hn]
    assumption
  · rcases List.mem_pair.1 hn with h | h <;> omega

theorem readUnits_escape (c : Char) (source : List Char) :
    readUnits (escape c ++ source) = (readUnits source).map (Prod.map (units c ++ ·) id) := by
  unfold escape
  split
  case h_8 hmark hbackslash _ _ _ _ _ =>
    split
    · rename_i hplain
      exact readUnits_plain hmark hbackslash hplain.1 source
    · exact readUnits_escapeUnits (units_lt c) source
  all_goals exact readUnits_short rfl source

theorem readUnits_quoted (text source : List Char) :
    readUnits (text.flatMap escape ++ '\x22' :: source) = some (text.flatMap units, source) := by
  induction text with
  | nil => exact readUnits_mark source
  | cons c text ih =>
    rw [List.flatMap_cons, List.append_assoc, readUnits_escape, ih]
    rfl

theorem ofUnits?_units (c : Char) (us : List Nat) :
    ofUnits? (units c ++ us) = (ofUnits? us).map (c :: ·) := by
  have hc := toNat_lt c
  have hchar : Char.ofNat c.toNat = c := Char.ofNat_toNat c
  simp only [units]
  generalize c.toNat = k at hc hchar
  split
  · rw [List.singleton_append, ofUnits?.eq_def]
    simp only [hchar]
    rw [if_pos (by omega)]
  · have hsum : 0x10000 + (0xD800 + (k - 0x10000) / 0x400 - 0xD800) * 0x400 +
        (0xDC00 + (k - 0x10000) % 0x400 - 0xDC00) = k := by
      omega
    rw [List.cons_append, List.singleton_append, ofUnits?.eq_def]
    simp only [hsum, hchar]
    rw [if_neg (by omega), if_pos (by omega)]

theorem ofUnits?_flatMap (text : List Char) : ofUnits? (text.flatMap units) = some text := by
  induction text with
  | nil => rfl
  | cons c text ih =>
    rw [List.flatMap_cons, ofUnits?_units, ih]
    rfl

theorem readString_quoted (s : String) (source : List Char) :
    readString (s.toList.flatMap escape ++ '\x22' :: source) = some (s, source) := by
  rw [readString, readUnits_quoted]
  simp only [Option.bind_eq_bind, Option.bind_some, ofUnits?_flatMap, String.ofList_toList]
  rfl

end RecordCodec.Document
