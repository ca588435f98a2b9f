import RecordCodec.Proofs.Number.Exact

namespace RecordCodec

-- Powers of natural numbers are those of the core library.
attribute [local instance (high)] instPowNat

def ValueLE (n : Nat) (s : Int) (m : Nat) (e : Int) : Prop :=
  n * 2 ^ (s - min s e).toNat ≤ m * 2 ^ (e - min s e).toNat

theorem ValueLE.iff_of_le {n m : Nat} {s e t : Int} (hs : t ≤ s) (he : t ≤ e) :
    ValueLE n s m e ↔ n * 2 ^ (s - t).toNat ≤ m * 2 ^ (e - t).toNat := by
  have hpos : 0 < 2 ^ (min s e - t).toNat := Nat.two_pow_pos _
  have hle : (s - t).toNat = (s - min s e).toNat + (min s e - t).toNat := by omega
  have hlt : (e - t).toNat = (e - min s e).toNat + (min s e - t).toNat := by omega
  rw [ValueLE, hle, hlt, Nat.pow_add, Nat.pow_add, ← Nat.mul_assoc, ← Nat.mul_assoc]
  exact (Nat.mul_le_mul_right_iff hpos).symm

namespace BinaryFormat

theorem divRound_cases (n d : Nat) : divRound n d = n / d ∧ 2 * (n % d) ≤ d ∨
    divRound n d = n / d + 1 ∧ d ≤ 2 * (n % d) := by
  simp only [divRound]
  by_cases hlow : 2 * (n % d) < d
  · rw [if_pos hlow]
    exact .inl ⟨rfl, Nat.le_of_lt hlow⟩
  · rw [if_neg hlow]
    by_cases hhigh : d < 2 * (n % d)
    · rw [if_pos hhigh]
      exact .inr ⟨rfl, Nat.le_of_lt hhigh⟩
    · rw [if_neg hhigh]
      rcases Nat.mod_two_eq_zero_or_one (n / d) with heven | hodd
      · rw [heven]
        exact .inl ⟨rfl, by omega⟩
      · rw [hodd]
        exact .inr ⟨rfl, by omega⟩

theorem divRound_le {n d k : Nat} (h : n ≤ k * d) (hd : 0 < d) : divRound n d ≤ k := by
  have hdiv := Nat.div_add_mod' n d
  rcases divRound_cases n d with ⟨heq, -⟩ | ⟨heq, hhigh⟩
  · rw [heq]
    exact Nat.div_le_of_le_mul (by rwa [Nat.mul_comm])
  · rw [heq]
    rcases Nat.lt_or_ge (n / d) k with hlt | hge
    · exact hlt
    · have hmul : k * d ≤ n / d * d := Nat.mul_le_mul_right d hge
      omega

theorem le_divRound {n d k : Nat} (h : k * d ≤ n) (hd : 0 < d) : k ≤ divRound n d := by
  have hk : k ≤ n / d := (Nat.le_div_iff_mul_le hd).2 h
  rcases divRound_cases n d with ⟨heq, -⟩ | ⟨heq, -⟩
  · omega
  · omega

theorem even_le_divRound_iff {n d k : Nat} (hd : 0 < d) (hk : k % 2 = 0) (hpos : 0 < k) :
    k ≤ divRound n d ↔ (2 * k - 1) * d ≤ 2 * n := by
  have hdiv := Nat.div_add_mod' n d
  have hmod := Nat.mod_lt n hd
  rcases Nat.lt_trichotomy (n / d + 1) k with hlt | heq | hgt
  · have hle : divRound n d ≤ n / d + 1 := by
      rcases divRound_cases n d with ⟨h, -⟩ | ⟨h, -⟩ <;> omega
    have hmul : (2 * (n / d) + 3) * d ≤ (2 * k - 1) * d := Nat.mul_le_mul_right d (by omega)
    rw [Nat.add_mul, Nat.mul_assoc] at hmul
    constructor <;> intro h <;> omega
  · have hmul : (2 * k - 1) * d = 2 * (n / d * d) + d := by
      rw [show 2 * k - 1 = 2 * (n / d) + 1 by omega, Nat.add_mul, Nat.mul_assoc, Nat.one_mul]
    have hodd : n / d % 2 = 1 := by omega
    rw [hmul]
    rcases divRound_cases n d with ⟨h, hlow⟩ | ⟨h, hhigh⟩
    · have hne : 2 * (n % d) ≠ d := by
        intro htie
        rw [divRound, htie, hodd] at h
        simp at h
      constructor <;> intro hle <;> omega
    · constructor <;> intro hle <;> omega
  · have hmul : k * d ≤ n / d * d := Nat.mul_le_mul_right d (by omega)
    have hle : (2 * k - 1) * d ≤ 2 * k * d := Nat.mul_le_mul_right d (Nat.sub_le _ _)
    rw [Nat.mul_assoc 2 k d] at hle
    have hk := le_divRound (n := n) (d := d) (k := k) (by omega) hd
    constructor <;> intro h <;> omega

def scaled (m : Nat) (shift : Int) : Nat :=
  if 0 ≤ shift then m * 2 ^ shift.toNat else divRound m (2 ^ (-shift).toNat)

theorem scaled_le {m k l : Nat} {shift : Int} (hm : m < 2 ^ l) (h : l + shift ≤ k) :
    scaled m shift ≤ 2 ^ k := by
  rw [scaled]
  by_cases hshift : 0 ≤ shift
  · rw [if_pos hshift]
    have hmul : m * 2 ^ shift.toNat ≤ 2 ^ l * 2 ^ shift.toNat :=
      Nat.mul_le_mul_right _ (Nat.le_of_lt hm)
    rw [← Nat.pow_add] at hmul
    exact Nat.le_trans hmul (Nat.pow_le_pow_right (by decide) (by omega))
  · rw [if_neg hshift]
    refine divRound_le ?_ (Nat.two_pow_pos _)
    rw [← Nat.pow_add]
    exact Nat.le_trans (Nat.le_of_lt hm) (Nat.pow_le_pow_right (by decide) (by omega))

theorem le_scaled {m k l : Nat} {shift : Int} (hm : 2 ^ l ≤ m) (h : (k : Int) ≤ l + shift) :
    2 ^ k ≤ scaled m shift := by
  rw [scaled]
  by_cases hshift : 0 ≤ shift
  · rw [if_pos hshift]
    have hmul : 2 ^ l * 2 ^ shift.toNat ≤ m * 2 ^ shift.toNat := Nat.mul_le_mul_right _ hm
    rw [← Nat.pow_add] at hmul
    exact Nat.le_trans (Nat.pow_le_pow_right (by decide) (by omega)) hmul
  · rw [if_neg hshift]
    refine le_divRound ?_ (Nat.two_pow_pos _)
    rw [← Nat.pow_add]
    exact Nat.le_trans (Nat.pow_le_pow_right (by decide) (by omega)) hm

variable (f : BinaryFormat)

def maxScale : Int :=
  f.minScale + (2 ^ f.exponentBits : Nat) - 3

/-- The least magnitude that is rounded to infinity: half a unit above the greatest finite one. -/
def overflow : Nat :=
  (2 ^ (f.fractionBits + 2) - 1) * 2 ^ (f.maxScale - 1).toNat

variable {m : Nat} {e : Int}

theorem scaled_bounds (hm : m ≠ 0) :
    let unit := max (m.log2 + e - f.fractionBits) f.minScale
    scaled m (e - unit) ≤ 2 ^ (f.fractionBits + 1) ∧
      (m.log2 + e - f.fractionBits = unit → 2 ^ f.fractionBits ≤ scaled m (e - unit)) := by
  intro unit
  have hlow : 2 ^ m.log2 ≤ m := (Nat.le_log2 hm).1 (Nat.le_refl _)
  have hhigh : m < 2 ^ (m.log2 + 1) := (Nat.log2_lt hm).1 (Nat.lt_succ_self _)
  refine ⟨scaled_le hhigh (by omega), fun hunit ↦ le_scaled hlow (by omega)⟩

theorem round?_eq_none_iff_infinity_le (hm : m ≠ 0) :
    f.round? m e = none ↔
      let unit := max (m.log2 + e - f.fractionBits) f.minScale
      f.infinity ≤ (unit - f.minScale).toNat * 2 ^ f.fractionBits + scaled m (e - unit) := by
  have hround : f.round? m e =
      let unit := max (m.log2 + e - f.fractionBits) f.minScale
      let magnitude := (unit - f.minScale).toNat * 2 ^ f.fractionBits + scaled m (e - unit)
      if m = 0 then some 0 else if magnitude < f.infinity then some magnitude else none := rfl
  rw [hround]
  simp only [if_neg hm]
  split
  · rename_i hlt
    simp only [reduceCtorEq, false_iff]
    omega
  · rename_i hge
    simp only [true_iff]
    omega

/-- Half a unit above the greatest finite number, a product is rounded up to infinity. -/
theorem round?_eq_none_iff_valueLE (hm : m ≠ 0) (hmax : f.minScale < f.maxScale) :
    f.round? m e = none ↔ ValueLE (2 ^ (f.fractionBits + 2) - 1) (f.maxScale - 1) m e := by
  have hlow : 2 ^ m.log2 ≤ m := (Nat.le_log2 hm).1 (Nat.le_refl _)
  have hhigh : m < 2 ^ (m.log2 + 1) := (Nat.log2_lt hm).1 (Nat.lt_succ_self _)
  obtain ⟨hle, hge⟩ := f.scaled_bounds (e := e) hm
  rw [f.round?_eq_none_iff_infinity_le hm]
  simp only [infinity] at hle hge ⊢
  generalize hunit : max (m.log2 + e - f.fractionBits) f.minScale = unit at hle hge ⊢
  have hpow : 2 ^ (f.fractionBits + 1) = 2 * 2 ^ f.fractionBits := Nat.pow_succ'
  have hpow' : 2 ^ (f.fractionBits + 2) = 4 * 2 ^ f.fractionBits := by
    rw [Nat.pow_succ', hpow, ← Nat.mul_assoc]
  have hpos := Nat.two_pow_pos f.fractionBits
  have hmaxScale : f.maxScale = f.minScale + (2 ^ f.exponentBits : Nat) - 3 := rfl
  rcases Int.lt_trichotomy unit f.maxScale with hlt | heq | hgt
  · -- the whole binade is finite
    have hu : (unit - f.minScale).toNat + 4 ≤ 2 ^ f.exponentBits := by omega
    have hmul := Nat.mul_le_mul_right (2 ^ f.fractionBits) hu
    have hmul' : (2 ^ f.exponentBits - 1) * 2 ^ f.fractionBits + 2 ^ f.fractionBits =
        2 ^ f.exponentBits * 2 ^ f.fractionBits := by
      rw [← Nat.succ_mul, Nat.succ_eq_add_one, Nat.sub_add_cancel (by omega)]
    have hbelow : ¬ ValueLE (2 ^ (f.fractionBits + 2) - 1) (f.maxScale - 1) m e := by
      rw [ValueLE, Nat.not_le]
      generalize ha : (f.maxScale - 1 - min (f.maxScale - 1) e).toNat = a
      generalize hb : (e - min (f.maxScale - 1) e).toNat = b
      calc m * 2 ^ b < 2 ^ (m.log2 + 1) * 2 ^ b :=
            Nat.mul_lt_mul_of_pos_right hhigh (Nat.two_pow_pos b)
        _ = 2 ^ (m.log2 + 1 + b) := (Nat.pow_add ..).symm
        _ ≤ 2 ^ (f.fractionBits + 1 + a) := Nat.pow_le_pow_right (by decide) (by omega)
        _ = 2 ^ (f.fractionBits + 1) * 2 ^ a := Nat.pow_add ..
        _ ≤ (2 ^ (f.fractionBits + 2) - 1) * 2 ^ a := Nat.mul_le_mul_right _ (by omega)
    simp only [hbelow, iff_false]
    rw [Nat.add_mul] at hmul
    omega
  · -- the last binade: its upper end is rounded to the next power of two
    have hu : (unit - f.minScale).toNat + 3 = 2 ^ f.exponentBits := by omega
    have hmul : (2 ^ f.exponentBits - 1) * 2 ^ f.fractionBits =
        (unit - f.minScale).toNat * 2 ^ f.fractionBits + 2 * 2 ^ f.fractionBits := by
      rw [← hu, ← Nat.add_mul]
      congr 1
    rw [hmul, Nat.add_le_add_iff_left]
    rcases Int.lt_or_le e unit with he | he
    · have hk : 2 ^ (-(e - unit)).toNat = 2 * 2 ^ (f.maxScale - 1 - e).toNat := by
        rw [← Nat.pow_succ']
        congr 1
        omega
      have hscaled : scaled m (e - unit) = divRound m (2 ^ (-(e - unit)).toNat) :=
        if_neg (by omega)
      rw [hscaled, even_le_divRound_iff (Nat.two_pow_pos _) (by omega) (by omega), hk,
        ValueLE.iff_of_le (t := e) (by omega) (Int.le_refl e), Int.sub_self, Int.toNat_zero,
        Nat.pow_zero, Nat.mul_one, Nat.mul_left_comm, hpow', ← Nat.mul_assoc 2 2]
      exact Nat.mul_le_mul_left_iff (by decide)
    · have hk : 2 ^ (e - (f.maxScale - 1)).toNat = 2 * 2 ^ (e - unit).toNat := by
        rw [← Nat.pow_succ']
        congr 1
        omega
      have hscaled : scaled m (e - unit) = m * 2 ^ (e - unit).toNat := if_pos (by omega)
      rw [hscaled, ValueLE.iff_of_le (t := f.maxScale - 1) (Int.le_refl _) (by omega),
        Int.sub_self, Int.toNat_zero, Nat.pow_zero, Nat.mul_one, hk, Nat.mul_left_comm, hpow']
      omega
  · -- beyond the last binade
    have hu : 2 ^ f.exponentBits ≤ (unit - f.minScale).toNat + 2 := by omega
    have hmul := Nat.mul_le_mul_right (2 ^ f.fractionBits) hu
    have hn := hge (by omega)
    have habove : ValueLE (2 ^ (f.fractionBits + 2) - 1) (f.maxScale - 1) m e := by
      rw [ValueLE]
      generalize ha : (f.maxScale - 1 - min (f.maxScale - 1) e).toNat = a
      generalize hb : (e - min (f.maxScale - 1) e).toNat = b
      calc (2 ^ (f.fractionBits + 2) - 1) * 2 ^ a ≤ 2 ^ (f.fractionBits + 2) * 2 ^ a :=
            Nat.mul_le_mul_right _ (Nat.sub_le _ _)
        _ = 2 ^ (f.fractionBits + 2 + a) := (Nat.pow_add ..).symm
        _ ≤ 2 ^ (m.log2 + b) := Nat.pow_le_pow_right (by decide) (by omega)
        _ = 2 ^ m.log2 * 2 ^ b := Nat.pow_add ..
        _ ≤ m * 2 ^ b := Nat.mul_le_mul_right _ hlow
    simp only [habove, iff_true]
    rw [Nat.add_mul] at hmul
    rw [Nat.sub_mul]
    omega

theorem round?_eq_none_iff (hmax : f.minScale < f.maxScale) (hpos : 0 < f.maxScale) :
    f.round? m e = none ↔ f.overflow * 2 ^ (-e).toNat ≤ m * 2 ^ e.toNat := by
  by_cases hm : m = 0
  · have hoverflow : 0 < f.overflow * 2 ^ (-e).toNat := by
      have hge : 2 ^ 1 ≤ 2 ^ (f.fractionBits + 2) :=
        Nat.pow_le_pow_right (by decide) (Nat.le_add_left 1 _)
      refine Nat.mul_pos (Nat.mul_pos ?_ (Nat.two_pow_pos _)) (Nat.two_pow_pos _)
      omega
    rw [hm, Nat.zero_mul, round?, if_pos rfl]
    exact iff_of_false (Option.some_ne_none 0) (by omega)
  · rw [f.round?_eq_none_iff_valueLE hm hmax,
      ValueLE.iff_of_le (t := min e 0) (by omega) (Int.min_le_left e 0), overflow, Nat.mul_assoc,
      ← Nat.pow_add]
    rw [show (f.maxScale - 1 - min e 0).toNat = (f.maxScale - 1).toNat + (-e).toNat by omega,
      show (e - min e 0).toNat = e.toNat by omega]

end BinaryFormat

namespace Binary64

open BinaryFormat

theorem ofInt?_eq_none_iff (n : Int) : ofInt? n = none ↔ double.overflow ≤ n.natAbs := by
  have hround := double.round?_eq_none_iff (m := n.natAbs) (e := 0) (by decide) (by decide)
  rw [Int.neg_zero, Int.toNat_zero, Nat.pow_zero, Nat.mul_one, Nat.mul_one] at hround
  rw [ofInt?, Option.map_eq_none_iff, hround]

def FitsSingle (x : Binary64) : Prop :=
  x.isFinite → x.num.natAbs < single.overflow * x.den

theorem natAbs_num (x : Binary64) : x.num.natAbs =
    double.mantissa x.magnitude * 2 ^ (double.scale x.magnitude).toNat := by
  rw [num]
  cases x.negative with
  | true => exact Int.natAbs_neg _
  | false => rfl

theorem narrow?_eq_none_iff (x : Binary64) : narrow? x = none ↔ ¬ x.FitsSingle := by
  have hround := single.round?_eq_none_iff (m := double.mantissa x.magnitude)
    (e := double.scale x.magnitude) (by decide) (by decide)
  rw [← natAbs_num] at hround
  rw [narrow?, Option.map_eq_none_iff, narrowMagnitude?, FitsSingle, isFinite, decide_eq_true_eq,
    Classical.not_imp, Nat.not_lt]
  rcases Nat.lt_trichotomy x.magnitude double.infinity with hlt | heq | hgt
  · rw [if_neg (by omega), if_neg (by omega), hround]
    exact ⟨fun h ↦ ⟨hlt, h⟩, And.right⟩
  · rw [if_neg (by omega), if_pos heq]
    exact iff_of_false (Option.some_ne_none _) fun h ↦ absurd h.1 (by omega)
  · rw [if_pos hgt]
    exact iff_of_false (Option.some_ne_none _) fun h ↦ absurd h.1 (by omega)

end Binary64

end RecordCodec
