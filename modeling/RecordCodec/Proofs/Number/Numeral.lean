import RecordCodec.Bitfield.Basic
import RecordCodec.Number.Numeral

namespace RecordCodec

-- Powers of natural numbers are those of the core library.
attribute [local instance (high)] instPowNat

namespace Numeral

def IsBinaryDigit (c : Char) : Prop :=
  c = '0' ∨ c = '1'

def bitValue (c : Char) : Nat :=
  if c = '1' then 1 else 0

variable {c : Char} {body : List Char} {base : Base}

theorem dropWhile_eq_self {α : Type} {p : α → Bool} {xs : List α} (h : ∀ a ∈ xs, p a = false) :
    xs.dropWhile p = xs := by
  cases xs with
  | nil => rfl
  | cons a xs => rw [List.dropWhile_cons, h a List.mem_cons_self, if_neg Bool.false_ne_true]

theorem ungroup_binary (h : ∀ c ∈ body, IsBinaryDigit c) : ungroup body = some body := by
  induction body with
  | nil => rfl
  | cons c rest ih =>
    have hrest := ih fun c' hc ↦ h c' (List.mem_cons_of_mem _ hc)
    rcases h c List.mem_cons_self with rfl | rfl
    · simp [ungroup, hrest]
    · simp [ungroup, hrest]

theorem mapM_digitValue? (h : ∀ c ∈ body, IsBinaryDigit c) :
    body.mapM digitValue? = some (body.map bitValue) := by
  induction body with
  | nil => rfl
  | cons c rest ih =>
    have hrest := ih fun c' hc ↦ h c' (List.mem_cons_of_mem _ hc)
    have hc : digitValue? c = some (bitValue c) := by
      rcases h c List.mem_cons_self with rfl | rfl <;> decide
    rw [List.mapM_cons, hc, hrest, List.map_cons]
    rfl

theorem head?_ne_underscore (h : ∀ c ∈ body, IsBinaryDigit c) : body.head? ≠ some '_' := by
  intro hhead
  rcases h '_' (List.mem_of_head? hhead) with h | h <;> cases h

theorem digits?_binary (hne : body ≠ []) (h : ∀ c ∈ body, IsBinaryDigit c) :
    digits? 2 body = some (body.map bitValue) := by
  have hhead : (body.head? != some '_' && !body.isEmpty) = true := by
    simp [head?_ne_underscore h, hne]
  have hall : (body.map bitValue).all (· < 2) = true := by
    rw [List.all_map, List.all_eq_true]
    intro c _
    simp only [Function.comp_apply, bitValue]
    split <;> rfl
  have hguard {p : Prop} [Decidable p] (hp : p) : (guard p : Option Unit) = some () := if_pos hp
  rw [digits?, hguard hhead, ungroup_binary h]
  show (body.mapM digitValue?).bind (fun ds ↦ (guard (ds.all (· < 2)) : Option Unit).bind
    fun _ ↦ some ds) = _
  rw [mapM_digitValue? h, Option.bind_some]
  rw [hguard hall]
  rfl

theorem prefixed?_binary (hne : body ≠ []) (h : ∀ c ∈ body, IsBinaryDigit c) :
    prefixed? 2 body = some (ofDigits 2 (body.map bitValue)) := by
  simp [prefixed?, digits?_binary hne h, head?_ne_underscore h]

theorem parse?_binary (hbase : base ≠ .ten) (hne : body ≠ [])
    (h : ∀ c ∈ body, IsBinaryDigit c) :
    parse? base ('0' :: 'b' :: body) = some ((ofDigits 2 (body.map bitValue) : Nat) : Int) := by
  have hblank : ∀ c ∈ '0' :: 'b' :: body, isBlank c = false := by
    simp only [List.forall_mem_cons]
    refine ⟨by decide, by decide, fun c hc ↦ ?_⟩
    rcases h c hc with rfl | rfl <;> decide
  have hbody : ((('0' :: 'b' :: body).dropWhile isBlank).reverse.dropWhile isBlank).reverse =
      '0' :: 'b' :: body := by
    rw [dropWhile_eq_self hblank, dropWhile_eq_self, List.reverse_reverse]
    intro c hc
    exact hblank c (List.mem_reverse.1 hc)
  have hzero : Text.decimalValue? '0' = some 0 := by decide
  have hletter : prefixBase? 'b' = some 2 := by decide
  cases base with
  | ten => exact absurd rfl hbase
  | two => simp [parse?, hbody, unsigned?, hzero, hletter, prefixed?_binary hne h]
  | byPrefix => simp [parse?, hbody, unsigned?, hzero, hletter, prefixed?_binary hne h]

theorem ofDigits_append (base d : Nat) (ds : List Nat) :
    ofDigits base (ds ++ [d]) = ofDigits base ds * base + d := by
  rw [ofDigits, List.foldl_append]
  rfl

end Numeral

namespace Bits

open Numeral

theorem isBinaryDigit_of_mem_digits {width n : Nat} {c : Char} (h : c ∈ digits width n) :
    IsBinaryDigit c := by
  obtain ⟨i, -, rfl⟩ := List.mem_map.1 h
  split
  · exact .inr rfl
  · exact .inl rfl

theorem digits_succ (width n : Nat) :
    digits (width + 1) n = digits width (n / 2) ++ [if n.testBit 0 then '1' else '0'] := by
  rw [digits, List.range_succ, List.map_append, digits]
  congr 1
  · apply List.map_congr_left
    intro i hi
    have hi := List.mem_range.1 hi
    rw [← Nat.testBit_succ]
    congr 3
    omega
  · simp

theorem ofDigits_digits (width n : Nat) :
    ofDigits 2 ((digits width n).map bitValue) = n % 2 ^ width := by
  induction width generalizing n with
  | zero => rw [Nat.pow_zero, Nat.mod_one]; rfl
  | succ width ih =>
    have hbit : bitValue (if n.testBit 0 then '1' else '0') = n % 2 := by
      rw [Nat.testBit_zero]
      rcases Nat.mod_two_eq_zero_or_one n with h | h <;> rw [h] <;> rfl
    rw [digits_succ, List.map_append, List.map_singleton, ofDigits_append, ih, hbit, Nat.pow_succ',
      Nat.mod_mul]
    omega

theorem parse?_digits {base : Base} (hbase : base ≠ .ten) {width n : Nat} (hwidth : 0 < width)
    (hn : n < 2 ^ width) : parse? base ('0' :: 'b' :: digits width n) = some (n : Int) := by
  have hne : digits width n ≠ [] := by
    rw [digits, Ne, List.map_eq_nil_iff, List.range_eq_nil]
    omega
  rw [parse?_binary hbase hne fun _ ↦ isBinaryDigit_of_mem_digits, ofDigits_digits,
    Nat.mod_eq_of_lt hn]

end Bits

end RecordCodec
