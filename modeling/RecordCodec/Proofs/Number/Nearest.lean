import RecordCodec.Proofs.Number.Exact
import RecordCodec.Number.Shortest
import Mathlib.Data.Int.Log
import Mathlib.Data.Rat.Floor
import Mathlib.Tactic.FieldSimp
import Mathlib.Tactic.Linarith
import Mathlib.Tactic.Positivity

namespace RecordCodec

-- Powers of natural numbers are those of the core library.
attribute [local instance (high)] instPowNat

namespace Binary64

open BinaryFormat

/-- The magnitude nearest to a number that is not negative, or nothing where that is infinity. -/
def nearestMagnitude? (v : ℚ) : Option Nat :=
  if v = 0 then some 0
  else
    let unit := max (Int.log 2 v - double.fractionBits) double.minScale
    let x := v / 2 ^ unit
    let magnitude :=
      (unit - double.minScale).toNat * 2 ^ double.fractionBits + divRound x.num.natAbs x.den
    if magnitude < double.infinity then some magnitude else none

end Binary64

def Binary64.Interval.Contains (i : Binary64.Interval) (v : ℚ) : Prop :=
  (i.low : ℚ) / i.den ≤ v ∧ v ≤ (i.high : ℚ) / i.den ∧
    (i.closed = false → (i.low : ℚ) / i.den < v ∧ v < (i.high : ℚ) / i.den)

namespace BinaryFormat

theorem divRound_eq {n d k : Nat} (hlow : 2 * (k * d) ≤ 2 * n + d) (hhigh : 2 * n ≤ 2 * (k * d) + d)
    (hodd : k % 2 = 1 → 2 * (k * d) < 2 * n + d ∧ 2 * n < 2 * (k * d) + d) (hd : 0 < d) :
    divRound n d = k := by
  have hdiv := Nat.div_add_mod' n d
  have hmod := Nat.mod_lt n hd
  have hle : n / d ≤ k := by
    by_contra hlt
    have := Nat.mul_le_mul_right d (show k + 1 ≤ n / d by omega)
    rw [Nat.add_mul] at this
    omega
  have hge : k ≤ n / d + 1 := by
    by_contra hlt
    have := Nat.mul_le_mul_right d (show n / d + 2 ≤ k by omega)
    rw [Nat.add_mul] at this
    omega
  simp only [divRound]
  rcases Nat.lt_or_eq_of_le hle with hlt | heq
  · obtain rfl : k = n / d + 1 := by omega
    rw [Nat.add_mul] at hlow hhigh hodd
    split
    · omega
    · split <;> omega
  · subst heq
    split
    · rfl
    · split <;> omega

theorem divRound_num_den {x : ℚ} {k : Nat} (hx : 0 ≤ x) (hlow : (k : ℚ) - 1 / 2 ≤ x)
    (hhigh : x ≤ k + 1 / 2) (hodd : k % 2 = 1 → (k : ℚ) - 1 / 2 < x ∧ x < k + 1 / 2) :
    divRound x.num.natAbs x.den = k := by
  have hden : (0 : ℚ) < x.den := by exact_mod_cast x.den_pos
  have hnum : ((x.num.natAbs : Nat) : ℚ) = x * x.den := by
    rw [Rat.mul_den_eq_num, ← Int.cast_natCast, Int.natAbs_of_nonneg (Rat.num_nonneg.2 hx)]
  refine divRound_eq ?_ ?_ ?_ x.den_pos
  · have : (2 * (k * x.den : ℚ)) ≤ 2 * (x * x.den) + x.den := by nlinarith
    rw [← hnum] at this
    exact_mod_cast this
  · have : 2 * (x * x.den) ≤ (2 * (k * x.den : ℚ)) + x.den := by nlinarith
    rw [← hnum] at this
    exact_mod_cast this
  · intro h
    obtain ⟨hlow, hhigh⟩ := hodd h
    have h₁ : (2 * (k * x.den : ℚ)) < 2 * (x * x.den) + x.den := by nlinarith
    have h₂ : 2 * (x * x.den) < (2 * (k * x.den : ℚ)) + x.den := by nlinarith
    rw [← hnum] at h₁ h₂
    exact ⟨by exact_mod_cast h₁, by exact_mod_cast h₂⟩

end BinaryFormat

namespace Binary64

open BinaryFormat

variable {g : Nat} {v y : ℚ}

def IsAtPower (g : Nat) : Prop :=
  g % 2 ^ double.fractionBits = 0 ∧ 2 ^ double.fractionBits < g

instance (g : Nat) : Decidable (IsAtPower g) :=
  inferInstanceAs (Decidable (_ ∧ _))

theorem two_zpow (e : Int) :
    (2 : ℚ) ^ e = ((2 ^ e.toNat : Nat) : ℚ) / ((2 ^ (-e).toNat : Nat) : ℚ) := by
  rw [Nat.cast_pow, Nat.cast_pow, ← zpow_natCast, ← zpow_natCast, ← zpow_sub₀ (by norm_num)]
  congr 1
  omega

theorem contains_iff (hm : 0 < double.mantissa g) :
    (roundingInterval g).Contains (y * 2 ^ double.scale g) ↔
      (double.mantissa g : ℚ) - (if IsAtPower g then 1 / 4 else 1 / 2) ≤ y ∧
      y ≤ double.mantissa g + 1 / 2 ∧
      (double.mantissa g % 2 = 1 →
        (double.mantissa g : ℚ) - (if IsAtPower g then 1 / 4 else 1 / 2) < y ∧
        y < double.mantissa g + 1 / 2) := by
  have hpos : (0 : ℚ) < 2 ^ double.scale g := zpow_pos (by norm_num) _
  have hunit := two_zpow (double.scale g - 2)
  rw [zpow_sub₀ (by norm_num)] at hunit
  have hlow : ((roundingInterval g).low : ℚ) / (roundingInterval g).den =
      (double.mantissa g - (if IsAtPower g then 1 / 4 else 1 / 2)) * 2 ^ double.scale g := by
    have hcast : ((4 * double.mantissa g - if IsAtPower g then 1 else 2 : Nat) : ℚ) =
        4 * (double.mantissa g - (if IsAtPower g then 1 / 4 else 1 / 2)) := by
      split <;> (rw [Nat.cast_sub (by omega)]; push_cast; ring)
    show ((((4 * double.mantissa g - if IsAtPower g then 1 else 2) *
      2 ^ (double.scale g - 2).toNat : Nat) : ℚ) / (2 ^ (-(double.scale g - 2)).toNat : Nat)) = _
    rw [Nat.cast_mul, mul_div_assoc, ← hunit, hcast]
    ring
  have hhigh : ((roundingInterval g).high : ℚ) / (roundingInterval g).den =
      (double.mantissa g + 1 / 2) * 2 ^ double.scale g := by
    show (((4 * double.mantissa g + 2) * 2 ^ (double.scale g - 2).toNat : Nat) : ℚ) /
      (2 ^ (-(double.scale g - 2)).toNat : Nat) = _
    rw [Nat.cast_mul, mul_div_assoc, ← hunit]
    push_cast
    ring
  have hclosed : (roundingInterval g).closed = false ↔ double.mantissa g % 2 = 1 := by
    rw [roundingInterval, beq_eq_false_iff_ne]
    omega
  rw [Interval.Contains, hlow, hhigh, hclosed, mul_le_mul_iff_left₀ hpos, mul_le_mul_iff_left₀ hpos,
    mul_lt_mul_iff_left₀ hpos, mul_lt_mul_iff_left₀ hpos]

theorem mantissa_pos (hpos : 0 < g) : 0 < double.mantissa g := by
  have hg := double.compose g
  rcases double.le_mantissa_or g with hle | ⟨-, hscale⟩
  · exact Nat.lt_of_lt_of_le (Nat.two_pow_pos _) hle
  · rw [hscale, Int.sub_self, Int.toNat_zero, Nat.zero_mul, Nat.zero_add] at hg
    omega

theorem nearestMagnitude?_of_unit {unit : Int} {n : Nat} (hv : v ≠ 0)
    (hunit : max (Int.log 2 v - double.fractionBits) double.minScale = unit)
    (hn : divRound (v / 2 ^ unit).num.natAbs (v / 2 ^ unit).den = n)
    (hg : (unit - double.minScale).toNat * 2 ^ double.fractionBits + n = g)
    (hfinite : g < double.infinity) : nearestMagnitude? v = some g := by
  rw [nearestMagnitude?, if_neg hv]
  simp only [hunit, hn, hg, if_pos hfinite]

theorem log_mul_zpow (hy : 0 < y) (e : Int) : Int.log 2 (y * 2 ^ e) = Int.log 2 y + e := by
  have hpos : (0 : ℚ) < 2 ^ e := zpow_pos (by norm_num) _
  have hle (k : Int) : k ≤ Int.log 2 (y * 2 ^ e) ↔ k ≤ Int.log 2 y + e := by
    rw [← sub_le_iff_le_add, ← Int.zpow_le_iff_le_log (by norm_num) (mul_pos hy hpos),
      ← Int.zpow_le_iff_le_log (by norm_num) hy, Nat.cast_ofNat, zpow_sub₀ (by norm_num),
      div_le_iff₀ hpos]
  exact le_antisymm ((hle _).1 le_rfl) ((hle _).2 le_rfl)

theorem nearestMagnitude?_at_scale (hg : g < double.infinity) (hm : 0 < double.mantissa g)
    (hlow : (double.mantissa g : ℚ) - 1 / 2 ≤ y) (hhigh : y ≤ double.mantissa g + 1 / 2)
    (hodd : double.mantissa g % 2 = 1 →
      (double.mantissa g : ℚ) - 1 / 2 < y ∧ y < double.mantissa g + 1 / 2)
    (hscale : (2 : ℚ) ^ 52 ≤ y ∨ double.scale g = double.minScale) :
    nearestMagnitude? (y * 2 ^ double.scale g) = some g := by
  have hpos : (0 : ℚ) < 2 ^ double.scale g := zpow_pos (by norm_num) _
  have hmlt : (double.mantissa g : ℚ) + 1 ≤ 2 ^ 53 := by exact_mod_cast double.mantissa_lt g
  have hmone : (1 : ℚ) ≤ double.mantissa g := by exact_mod_cast hm
  have hy : 0 < y := by linarith
  refine nearestMagnitude?_of_unit (mul_pos hy hpos).ne' ?_ ?_ (double.compose g) hg
  · have hlt : Int.log 2 y < 53 :=
      (Int.lt_zpow_iff_log_lt (by norm_num) hy).1 (by norm_num; linarith)
    have hmin := double.minScale_le_scale g
    rw [log_mul_zpow hy, show (double.fractionBits : Int) = 52 from rfl]
    rcases hscale with hle | heq
    · have : 52 ≤ Int.log 2 y := (Int.zpow_le_iff_le_log (by norm_num) hy).1 (by exact_mod_cast hle)
      omega
    · omega
  · rw [mul_div_assoc, div_self hpos.ne', mul_one]
    exact divRound_num_den hy.le hlow hhigh hodd

theorem nearestMagnitude?_below_power (hg : g < double.infinity) (hpower : IsAtPower g)
    (hlow : (2 : ℚ) ^ 52 - 1 / 4 ≤ y) (hlt : y < 2 ^ 52) :
    nearestMagnitude? (y * 2 ^ double.scale g) = some g := by
  obtain ⟨hmod, hgt⟩ := hpower
  have hpos : (0 : ℚ) < 2 ^ double.scale g := zpow_pos (by norm_num) _
  have hy : 0 < y := by linarith
  have hm : double.mantissa g = 2 ^ 52 := by
    rw [double.mantissa_of_le hgt.le, hmod, Nat.zero_add]
    rfl
  have hcompose := double.compose g
  rw [hm, show double.fractionBits = 52 from rfl] at hcompose
  obtain ⟨k, hk⟩ : ∃ k, (double.scale g - double.minScale).toNat = k + 1 := by
    refine Nat.exists_eq_succ_of_ne_zero fun hzero ↦ ?_
    rw [hzero, Nat.zero_mul, Nat.zero_add] at hcompose
    rw [show double.fractionBits = 52 from rfl] at hgt
    omega
  have hunit : max (Int.log 2 (y * 2 ^ double.scale g) - double.fractionBits) double.minScale =
      double.scale g - 1 := by
    have hle : 51 ≤ Int.log 2 y :=
      (Int.zpow_le_iff_le_log (by norm_num) hy).1 (by norm_num; linarith)
    have hlt : Int.log 2 y < 52 :=
      (Int.lt_zpow_iff_log_lt (by norm_num) hy).1 (by norm_num; linarith)
    rw [log_mul_zpow hy, show (double.fractionBits : Int) = 52 from rfl]
    omega
  have hx : y * 2 ^ double.scale g / 2 ^ (double.scale g - 1) = 2 * y := by
    rw [zpow_sub_one₀ (by norm_num)]
    field_simp
  have hn : divRound (2 * y).num.natAbs (2 * y).den = 2 * 2 ^ 52 := by
    refine divRound_num_den (by linarith) ?_ ?_ fun hodd ↦ ?_
    · push_cast
      linarith
    · push_cast
      linarith
    · rw [Nat.mul_mod_right] at hodd
      cases hodd
  refine nearestMagnitude?_of_unit (mul_pos hy hpos).ne' hunit (hx ▸ hn) ?_ hg
  rw [hk, Nat.add_mul, Nat.one_mul] at hcompose
  rw [show (double.scale g - 1 - double.minScale).toNat = k by omega,
    show double.fractionBits = 52 from rfl, Nat.two_mul, ← Nat.add_assoc, hcompose]

/-- All numbers of the rounding interval become the double that it is the interval of. -/
theorem nearestMagnitude?_of_contains (hg : g < double.infinity) (hpos : 0 < g)
    (h : (roundingInterval g).Contains v) : nearestMagnitude? v = some g := by
  have hm := mantissa_pos hpos
  have hscale : (0 : ℚ) < 2 ^ double.scale g := zpow_pos (by norm_num) _
  obtain ⟨y, rfl⟩ : ∃ y, v = y * 2 ^ double.scale g := ⟨_, (div_mul_cancel₀ v hscale.ne').symm⟩
  obtain ⟨hlow, hhigh, hodd⟩ := (contains_iff hm).1 h
  have hgap : (if IsAtPower g then 1 / 4 else 1 / 2 : ℚ) ≤ 1 / 2 := by split <;> norm_num
  by_cases hcase : (2 : ℚ) ^ 52 ≤ y ∨ double.scale g = double.minScale
  · exact nearestMagnitude?_at_scale hg hm (by linarith) hhigh
      (fun hm ↦ ⟨by linarith [(hodd hm).1], (hodd hm).2⟩) hcase
  · obtain ⟨hbelow, hne⟩ := not_or.1 hcase
    -- a normal double within half a unit of its least mantissa has that mantissa
    have hle : 2 ^ 52 ≤ double.mantissa g :=
      (double.le_mantissa_or g).resolve_right fun h ↦ hne h.2
    have hlt : (double.mantissa g : ℚ) < 2 ^ 52 + 1 := by linarith
    have hlt : double.mantissa g < 2 ^ 52 + 1 := by exact_mod_cast hlt
    obtain heq : double.mantissa g = 2 ^ 52 := by omega
    have hcompose := double.compose g
    have hmin := double.minScale_le_scale g
    have hpower : IsAtPower g := by
      rw [heq, show double.fractionBits = 52 from rfl] at hcompose
      constructor <;> (rw [show double.fractionBits = 52 from rfl]; omega)
    rw [heq, if_pos hpower] at hlow
    exact nearestMagnitude?_below_power hg hpower (by exact_mod_cast hlow) (not_le.1 hbelow)

end Binary64

end RecordCodec
