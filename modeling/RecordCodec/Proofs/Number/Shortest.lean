import RecordCodec.Proofs.Number.Nearest

namespace RecordCodec

-- Powers of natural numbers are those of the core library.
attribute [local instance (high)] instPowNat

def Decimal.value (d : Decimal) : ℚ :=
  d.digits * 10 ^ d.exponent

namespace Binary64

open BinaryFormat

namespace Interval

variable {i : Interval} {exponent : Int} {d : Decimal}

def inside (i : Interval) (exponent : Int) (c : Nat) : Bool :=
  if i.closed then
    i.low * 10 ^ (-exponent).toNat ≤ c * (i.den * 10 ^ exponent.toNat) &&
      c * (i.den * 10 ^ exponent.toNat) ≤ i.high * 10 ^ (-exponent).toNat
  else
    i.low * 10 ^ (-exponent).toNat < c * (i.den * 10 ^ exponent.toNat) &&
      c * (i.den * 10 ^ exponent.toNat) < i.high * 10 ^ (-exponent).toNat

def lower (i : Interval) (exponent : Int) : Nat :=
  i.mid * 10 ^ (-exponent).toNat / (i.den * 10 ^ exponent.toNat)

theorem ten_zpow (e : Int) :
    (10 : ℚ) ^ e = ((10 ^ e.toNat : Nat) : ℚ) / ((10 ^ (-e).toNat : Nat) : ℚ) := by
  rw [Nat.cast_pow, Nat.cast_pow, ← zpow_natCast, ← zpow_natCast, ← zpow_sub₀ (by norm_num)]
  congr 1
  omega

theorem cross_iff (hden : 0 < i.den) (n c : Nat) :
    (n * 10 ^ (-exponent).toNat ≤ c * (i.den * 10 ^ exponent.toNat) ↔
      (n : ℚ) / i.den ≤ Decimal.value ⟨c, exponent⟩) ∧
    (c * (i.den * 10 ^ exponent.toNat) ≤ n * 10 ^ (-exponent).toNat ↔
      Decimal.value ⟨c, exponent⟩ ≤ (n : ℚ) / i.den) := by
  have hd : (0 : ℚ) < i.den := by exact_mod_cast hden
  have hup : (0 : ℚ) < (10 ^ (-exponent).toNat : Nat) := by positivity
  have hmul : c * (i.den * 10 ^ exponent.toNat) = c * 10 ^ exponent.toNat * i.den := by ring
  rw [hmul, Decimal.value, ten_zpow, ← mul_div_assoc, div_le_div_iff₀ hd hup,
    div_le_div_iff₀ hup hd]
  constructor <;> exact_mod_cast Iff.rfl

theorem inside_iff (hden : 0 < i.den) (c : Nat) :
    i.inside exponent c = true ↔ i.Contains (Decimal.value ⟨c, exponent⟩) := by
  obtain ⟨hlow, hlow'⟩ := @cross_iff i exponent hden i.low c
  obtain ⟨hhigh', hhigh⟩ := @cross_iff i exponent hden i.high c
  rw [Contains, ← hlow, ← hhigh, ← lt_iff_lt_of_le_iff_le hlow', ← lt_iff_lt_of_le_iff_le hhigh',
    inside]
  cases i.closed with
  | true => simp
  | false =>
    simp only [Bool.false_eq_true, if_false, Bool.and_eq_true, decide_eq_true_eq, true_implies]
    omega

def takesUpper (i : Interval) (exponent : Int) : Bool :=
  let den := i.den * 10 ^ exponent.toNat
  let mid := i.mid * 10 ^ (-exponent).toNat
  let below := mid - i.lower exponent * den
  let above := (i.lower exponent + 1) * den - mid
  if i.inside exponent (i.lower exponent) && i.inside exponent (i.lower exponent + 1) then
    above < below || (above == below && i.lower exponent % 2 == 1)
  else i.inside exponent (i.lower exponent + 1)

theorem nearest?_eq (i : Interval) (exponent : Int) : i.nearest? exponent =
    if i.takesUpper exponent then some ⟨i.lower exponent + 1, exponent⟩
    else if i.inside exponent (i.lower exponent) then some ⟨i.lower exponent, exponent⟩
    else none :=
  rfl

theorem nearest?_eq_some (h : i.nearest? exponent = some d) :
    d.exponent = exponent ∧ i.inside exponent d.digits = true := by
  rw [nearest?_eq] at h
  split at h
  · rename_i hupper
    cases h
    refine ⟨rfl, ?_⟩
    rw [takesUpper] at hupper
    split at hupper
    · rename_i hboth
      exact (Bool.and_eq_true_iff.1 hboth).2
    · exact hupper
  · obtain ⟨hlower, h⟩ := Option.ite_none_right_eq_some.1 h
    cases h
    exact ⟨rfl, hlower⟩

theorem nearest?_eq_none (h : i.nearest? exponent = none) :
    i.inside exponent (i.lower exponent) = false ∧
      i.inside exponent (i.lower exponent + 1) = false := by
  rw [nearest?_eq] at h
  split at h
  · cases h
  · rename_i hupper
    split at h
    · cases h
    · rename_i hlower
      rw [Bool.not_eq_true] at hlower
      refine ⟨hlower, ?_⟩
      simpa [takesUpper, hlower] using hupper

theorem lower_bounds (hden : 0 < i.den) (exponent : Int) :
    Decimal.value ⟨i.lower exponent, exponent⟩ ≤ (i.mid : ℚ) / i.den ∧
      (i.mid : ℚ) / i.den < Decimal.value ⟨i.lower exponent + 1, exponent⟩ := by
  have hpos : 0 < i.den * 10 ^ exponent.toNat := Nat.mul_pos hden (by positivity)
  refine ⟨(cross_iff hden i.mid _).2.1 (Nat.div_mul_le_self _ _), ?_⟩
  exact (lt_iff_lt_of_le_iff_le (cross_iff hden i.mid _).2).1
    (Nat.lt_mul_of_div_lt (Nat.lt_succ_self _) hpos)

end Interval

variable {g : Nat} {v : ℚ} {exponent : Int}

theorem den_pos (g : Nat) : 0 < (roundingInterval g).den :=
  Nat.two_pow_pos _

theorem mid_div_den (g : Nat) : ((roundingInterval g).mid : ℚ) / (roundingInterval g).den =
    double.mantissa g * 2 ^ double.scale g := by
  have hunit := two_zpow (double.scale g - 2)
  rw [zpow_sub₀ (by norm_num)] at hunit
  show ((4 * double.mantissa g * 2 ^ (double.scale g - 2).toNat : Nat) : ℚ) /
    (2 ^ (-(double.scale g - 2)).toNat : Nat) = _
  rw [Nat.cast_mul, mul_div_assoc, ← hunit]
  push_cast
  ring

def reach (g : Nat) : ℚ :=
  (if IsAtPower g then 1 / 4 else 1 / 2) * 2 ^ double.scale g

theorem contains_of_near (hpos : 0 < g)
    (h : |v - double.mantissa g * 2 ^ double.scale g| < reach g) :
    (roundingInterval g).Contains v := by
  have hscale : (0 : ℚ) < 2 ^ double.scale g := zpow_pos (by norm_num) _
  obtain ⟨y, rfl⟩ : ∃ y, v = y * 2 ^ double.scale g := ⟨_, (div_mul_cancel₀ v hscale.ne').symm⟩
  rw [reach, ← sub_mul, abs_mul, abs_of_pos hscale, mul_lt_mul_iff_left₀ hscale, abs_lt] at h
  have hgap : (if IsAtPower g then 1 / 4 else 1 / 2 : ℚ) ≤ 1 / 2 := by split <;> norm_num
  rw [contains_iff (mantissa_pos hpos)]
  exact ⟨by linarith, by linarith, fun _ ↦ ⟨by linarith, by linarith⟩⟩

theorem nearest?_ne_none (hpos : 0 < g) (h : (10 : ℚ) ^ exponent < 2 * reach g) :
    (roundingInterval g).nearest? exponent ≠ none := by
  intro hnone
  obtain ⟨hlower, hupper⟩ := Interval.nearest?_eq_none hnone
  obtain ⟨hle, hlt⟩ := Interval.lower_bounds (den_pos g) exponent
  rw [mid_div_den] at hle hlt
  have hstep : Decimal.value ⟨(roundingInterval g).lower exponent + 1, exponent⟩ =
      Decimal.value ⟨(roundingInterval g).lower exponent, exponent⟩ + 10 ^ exponent := by
    rw [Decimal.value, Decimal.value]
    push_cast
    ring
  have hfar (c : Nat) (hc : (roundingInterval g).inside exponent c = false) :
      reach g ≤ |Decimal.value ⟨c, exponent⟩ - double.mantissa g * 2 ^ double.scale g| := by
    by_contra hnear
    have := (Interval.inside_iff (den_pos g) c).2 (contains_of_near hpos (not_le.1 hnear))
    rw [hc] at this
    cases this
  have hbelow := hfar _ hlower
  have habove := hfar _ hupper
  rw [abs_of_nonpos (by linarith)] at hbelow
  rw [abs_of_nonneg (by linarith)] at habove
  linarith

theorem ten_zpow_leadingExponent_le {n d : Nat} (hn : 0 < n) (hd : 0 < d) :
    (10 : ℚ) ^ leadingExponent n d ≤ (n : ℚ) / d := by
  have hn' : (0 : ℚ) < n := by exact_mod_cast hn
  have hd' : (0 : ℚ) < d := by exact_mod_cast hd
  rw [leadingExponent]
  split
  · rename_i hle
    have hlength := @Nat.length_toDigits_pos 10 (n / d)
    obtain ⟨k, hk⟩ := Nat.exists_eq_add_of_lt hlength
    have hpow : 10 ^ k ≤ n / d := by
      rcases Nat.eq_zero_or_pos k with rfl | hpos
      · exact Nat.div_pos hle hd
      · have := (Nat.length_toDigits_le_iff (n := n / d) (show 1 < 10 by decide) hpos).not
        omega
    have hpow : 10 ^ k * d ≤ n := (Nat.le_div_iff_mul_le hd).1 hpow
    rw [hk, show ((0 + k + 1 : Nat) : Int) - 1 = k by omega, zpow_natCast, le_div_iff₀ hd']
    exact_mod_cast hpow
  · rename_i hlt
    have hlt : n < d := Nat.not_le.1 hlt
    generalize hk : (Nat.toDigits 10 ((d + n - 1) / n - 1)).length = k
    have hkpos : 0 < k := hk ▸ Nat.length_toDigits_pos
    have hpow : (d + n - 1) / n - 1 < 10 ^ k :=
      (Nat.length_toDigits_le_iff (by decide) hkpos).1 hk.le
    have hceil : d ≤ (d + n - 1) / n * n := by
      have := Nat.div_add_mod' (d + n - 1) n
      have := Nat.mod_lt (d + n - 1) hn
      omega
    have hmul : d ≤ 10 ^ k * n := hceil.trans (Nat.mul_le_mul_right n (by omega))
    rw [zpow_neg, zpow_natCast, inv_le_comm₀ (by positivity) (by positivity), inv_div,
      div_le_iff₀ hn']
    exact_mod_cast hmul

theorem ten_zpow_sub_lt (g : Nat) {lead : Int}
    (h : (10 : ℚ) ^ lead ≤ double.mantissa g * 2 ^ double.scale g) :
    (10 : ℚ) ^ (lead - 16) < 2 * reach g := by
  have hscale : (0 : ℚ) < 2 ^ double.scale g := zpow_pos (by norm_num) _
  have hm : (double.mantissa g : ℚ) < 2 ^ 53 := by exact_mod_cast double.mantissa_lt g
  rw [zpow_sub₀ (by norm_num), div_lt_iff₀ (by norm_num), reach]
  split
  · rename_i hpower
    have hm : double.mantissa g = 2 ^ 52 := by
      rw [double.mantissa_of_le hpower.2.le, hpower.1, Nat.zero_add]
      rfl
    rw [hm] at h
    push_cast at h
    norm_num
    nlinarith
  · norm_num
    nlinarith

theorem pos_of_contains (hpos : 0 < g) (h : (roundingInterval g).Contains v) : 0 < v := by
  have hm := mantissa_pos hpos
  have hscale : (0 : ℚ) < 2 ^ double.scale g := zpow_pos (by norm_num) _
  obtain ⟨y, rfl⟩ : ∃ y, v = y * 2 ^ double.scale g := ⟨_, (div_mul_cancel₀ v hscale.ne').symm⟩
  obtain ⟨hlow, -⟩ := (contains_iff hm).1 h
  have hmone : (1 : ℚ) ≤ double.mantissa g := by exact_mod_cast hm
  have hgap : (if IsAtPower g then 1 / 4 else 1 / 2 : ℚ) ≤ 1 / 2 := by split <;> norm_num
  exact mul_pos (by linarith) hscale

/-- The digits that are found lie in the interval, so they read back as the double. -/
theorem contains_shortestMagnitude (hpos : 0 < g) :
    (roundingInterval g).Contains (shortestMagnitude g).value := by
  have hmid : 0 < (roundingInterval g).mid :=
    Nat.mul_pos (Nat.mul_pos (by decide) (mantissa_pos hpos)) (Nat.two_pow_pos _)
  have hlead := ten_zpow_leadingExponent_le hmid (den_pos g)
  rw [mid_div_den] at hlead
  have hsome := nearest?_ne_none hpos (ten_zpow_sub_lt g hlead)
  rw [shortestMagnitude]
  cases hfound : (List.range 17).findSome? fun (n : Nat) ↦ (roundingInterval g).nearest?
      (leadingExponent (roundingInterval g).mid (roundingInterval g).den - n) with
  | none =>
    rw [List.findSome?_eq_none_iff] at hfound
    exact absurd (hfound 16 (by decide)) hsome
  | some d =>
    obtain ⟨n, -, hd⟩ := List.exists_of_findSome?_eq_some hfound
    obtain ⟨hexponent, hinside⟩ := Interval.nearest?_eq_some hd
    rw [Option.getD_some]
    rw [← hexponent] at hinside
    exact (Interval.inside_iff (den_pos g) d.digits).1 hinside

theorem digits_shortestMagnitude_pos (hpos : 0 < g) : 0 < (shortestMagnitude g).digits := by
  have hvalue := pos_of_contains hpos (contains_shortestMagnitude hpos)
  rw [Decimal.value] at hvalue
  by_contra hzero
  rw [Nat.eq_zero_of_not_pos hzero, Nat.cast_zero, zero_mul] at hvalue
  exact lt_irrefl _ hvalue

end Binary64

end RecordCodec
