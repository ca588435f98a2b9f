import RecordCodec.Number.Binary32

namespace RecordCodec

-- Powers of natural numbers are those of the core library.
attribute [local instance (high)] instPowNat

def SameValue (m : Nat) (e : Int) (n : Nat) (s : Int) : Prop :=
  m * 2 ^ (e - min e s).toNat = n * 2 ^ (s - min e s).toNat

namespace SameValue

variable {m n k : Nat} {e s t : Int}

instance : Decidable (SameValue m e n s) :=
  inferInstanceAs (Decidable (_ = _))

theorem iff_of_le (he : t ≤ e) (hs : t ≤ s) :
    SameValue m e n s ↔ m * 2 ^ (e - t).toNat = n * 2 ^ (s - t).toNat := by
  have hpos : 0 < 2 ^ (min e s - t).toNat := Nat.two_pow_pos _
  have hle : (e - t).toNat = (e - min e s).toNat + (min e s - t).toNat := by omega
  have hls : (s - t).toNat = (s - min e s).toNat + (min e s - t).toNat := by omega
  rw [SameValue, hle, hls, Nat.pow_add, Nat.pow_add, ← Nat.mul_assoc, ← Nat.mul_assoc]
  exact (Nat.mul_left_inj (Nat.ne_of_gt hpos)).symm

theorem symm (h : SameValue m e n s) : SameValue n s m e := by
  rw [SameValue, Int.min_comm]
  exact Eq.symm h

theorem trans {r : Int} (h : SameValue m e n s) (h' : SameValue n s k r) : SameValue m e k r := by
  have hm : min (min e s) r ≤ e := by omega
  have hn : min (min e s) r ≤ s := by omega
  have hk : min (min e s) r ≤ r := by omega
  rw [iff_of_le hm hn] at h
  rw [iff_of_le hn hk] at h'
  rw [iff_of_le hm hk, h, h']

theorem shift (m k : Nat) (e : Int) : SameValue m e (m * 2 ^ k) (e - k) := by
  have hk : (e - (e - k)).toNat = k := by omega
  have h0 : (e - k - (e - k)).toNat = 0 := by omega
  rw [iff_of_le (t := e - k) (by omega) (Int.le_refl _), hk, h0, Nat.pow_zero, Nat.mul_one]

theorem cases (h : SameValue m e n s) :
    (s ≤ e ∧ n = m * 2 ^ (e - s).toNat) ∨ (e ≤ s ∧ m = n * 2 ^ (s - e).toNat) := by
  rcases Int.le_total s e with hle | hle
  · rw [iff_of_le hle (Int.le_refl _), Int.sub_self, Int.toNat_zero, Nat.pow_zero,
      Nat.mul_one] at h
    exact .inl ⟨hle, h.symm⟩
  · rw [iff_of_le (Int.le_refl _) hle, Int.sub_self, Int.toNat_zero, Nat.pow_zero,
      Nat.mul_one] at h
    exact .inr ⟨hle, h⟩

end SameValue

theorem log2_mul_two_pow {m : Nat} (hm : m ≠ 0) (k : Nat) : (m * 2 ^ k).log2 = m.log2 + k := by
  induction k with
  | zero => rw [Nat.pow_zero, Nat.mul_one, Nat.add_zero]
  | succ k ih =>
    have hne : m * 2 ^ k ≠ 0 := Nat.mul_ne_zero hm (Nat.ne_of_gt (Nat.two_pow_pos k))
    rw [Nat.pow_succ', Nat.mul_left_comm, Nat.log2_two_mul hne, ih, Nat.add_assoc]

namespace SameValue

theorem log2_eq {m n : Nat} {e s : Int} (h : SameValue m e n s) (hn : n ≠ 0) :
    (m.log2 : Int) + e = n.log2 + s := by
  rcases h.cases with ⟨hle, rfl⟩ | ⟨hle, rfl⟩
  · have hm : m ≠ 0 := fun hm ↦ hn (by rw [hm, Nat.zero_mul])
    rw [log2_mul_two_pow hm]
    omega
  · rw [log2_mul_two_pow hn]
    omega

end SameValue

namespace BinaryFormat

variable (f : BinaryFormat) {g m : Nat} {e : Int}

theorem minScale_le_scale (g : Nat) : f.minScale ≤ f.scale g := by
  simp only [scale]
  omega

theorem mantissa_of_lt (h : g < 2 ^ f.fractionBits) :
    f.mantissa g = g ∧ f.scale g = f.minScale := by
  have hdiv : g / 2 ^ f.fractionBits = 0 := Nat.div_eq_of_lt h
  refine ⟨?_, ?_⟩
  · rw [mantissa, if_pos h, Nat.mod_eq_of_lt h]
  · rw [scale, hdiv]
    simp

theorem mantissa_of_le (h : 2 ^ f.fractionBits ≤ g) :
    f.mantissa g = g % 2 ^ f.fractionBits + 2 ^ f.fractionBits :=
  if_neg (Nat.not_lt.2 h)

theorem le_mantissa_or (g : Nat) :
    2 ^ f.fractionBits ≤ f.mantissa g ∨
      f.mantissa g < 2 ^ f.fractionBits ∧ f.scale g = f.minScale := by
  rcases Nat.lt_or_ge g (2 ^ f.fractionBits) with h | h
  · obtain ⟨hm, hs⟩ := f.mantissa_of_lt h
    exact .inr ⟨by rwa [hm], hs⟩
  · rw [f.mantissa_of_le h]
    exact .inl (Nat.le_add_left _ _)

theorem mantissa_lt (g : Nat) : f.mantissa g < 2 ^ (f.fractionBits + 1) := by
  have hmod := Nat.mod_lt g (Nat.two_pow_pos f.fractionBits)
  rw [Nat.pow_succ]
  simp only [mantissa]
  split <;> omega

theorem compose (g : Nat) :
    (f.scale g - f.minScale).toNat * 2 ^ f.fractionBits + f.mantissa g = g := by
  rcases Nat.lt_or_ge g (2 ^ f.fractionBits) with h | h
  · obtain ⟨hm, hs⟩ := f.mantissa_of_lt h
    rw [hm, hs, Int.sub_self, Int.toNat_zero, Nat.zero_mul, Nat.zero_add]
  · have hpos : 0 < g / 2 ^ f.fractionBits := Nat.div_pos h (Nat.two_pow_pos _)
    have hscale : (f.scale g - f.minScale).toNat = g / 2 ^ f.fractionBits - 1 := by
      simp only [scale]
      omega
    have hdiv := Nat.div_add_mod' g (2 ^ f.fractionBits)
    obtain ⟨q, hq⟩ := Nat.exists_eq_add_of_lt hpos
    rw [hscale, f.mantissa_of_le h]
    rw [hq] at hdiv ⊢
    rw [show 0 + q + 1 - 1 = q by omega]
    rw [show 0 + q + 1 = q + 1 by omega, Nat.add_mul] at hdiv
    omega

theorem unit_eq (h : SameValue m e (f.mantissa g) (f.scale g)) (hg : f.mantissa g ≠ 0) :
    max (m.log2 + e - f.fractionBits) f.minScale = f.scale g := by
  have hlog := h.log2_eq hg
  have hle := f.minScale_le_scale g
  rcases f.le_mantissa_or g with hnormal | ⟨hlt, hscale⟩
  · have hbits : (f.mantissa g).log2 = f.fractionBits :=
      (Nat.log2_eq_iff hg).2 ⟨hnormal, f.mantissa_lt g⟩
    omega
  · have hbits : (f.mantissa g).log2 < f.fractionBits := (Nat.log2_lt hg).2 hlt
    omega

theorem divRound_mul (n d : Nat) (hd : 0 < d) : divRound (n * d) d = n := by
  simp only [divRound, Nat.mul_mod_left, Nat.mul_div_cancel n hd, Nat.mul_zero, if_pos hd]

theorem round?_lt (hpos : 0 < f.infinity) (h : f.round? m e = some g) : g < f.infinity := by
  simp only [round?] at h
  by_cases hm : m = 0
  · rw [if_pos hm] at h
    cases h
    exact hpos
  · rw [if_neg hm, Option.ite_none_right_eq_some, Option.some_inj] at h
    obtain ⟨hlt, rfl⟩ := h
    exact hlt

theorem round?_of_sameValue (h : SameValue m e (f.mantissa g) (f.scale g)) (hg : g < f.infinity) :
    f.round? m e = some g := by
  by_cases hzero : f.mantissa g = 0
  · have hm : m = 0 := by
      rcases h.cases with ⟨-, hm⟩ | ⟨-, hm⟩
      · rw [hzero] at hm
        exact (Nat.mul_eq_zero.1 hm.symm).resolve_right (Nat.ne_of_gt (Nat.two_pow_pos _))
      · rw [hm, hzero, Nat.zero_mul]
    have hg0 : g = 0 := by
      rcases Nat.lt_or_ge g (2 ^ f.fractionBits) with hlt | hge
      · rw [← (f.mantissa_of_lt hlt).1, hzero]
      · have := Nat.two_pow_pos f.fractionBits
        rw [f.mantissa_of_le hge] at hzero
        omega
    rw [hm, hg0, round?]
    exact if_pos rfl
  · have hm : m ≠ 0 := by
      rintro rfl
      rcases h.cases with ⟨-, hm⟩ | ⟨-, hm⟩
      · exact hzero (hm.trans (Nat.zero_mul _))
      · exact Nat.mul_ne_zero hzero (Nat.ne_of_gt (Nat.two_pow_pos _)) hm.symm
    have hunit := f.unit_eq h hzero
    have hn : (if 0 ≤ e - f.scale g then m * 2 ^ (e - f.scale g).toNat
        else divRound m (2 ^ (-(e - f.scale g)).toNat)) = f.mantissa g := by
      rcases h.cases with ⟨hle, hm⟩ | ⟨hle, hm⟩
      · rw [if_pos (by omega), hm]
      · rcases Int.lt_or_eq_of_le hle with hlt | heq
        · rw [if_neg (by omega), show -(e - f.scale g) = f.scale g - e by omega]
          exact (congrArg (divRound · _) hm).trans (divRound_mul _ _ (Nat.two_pow_pos _))
        · rw [if_pos (by omega), hm]
          simp [heq]
    simp only [round?, hunit, hn, f.compose, if_neg hm, if_pos hg]

theorem of_compose {u n : Nat} (hn : n < 2 ^ (f.fractionBits + 1))
    (h : 2 ^ f.fractionBits ≤ n ∨ u = 0) :
    f.mantissa (u * 2 ^ f.fractionBits + n) = n ∧
      f.scale (u * 2 ^ f.fractionBits + n) = f.minScale + u := by
  have hpos := Nat.two_pow_pos f.fractionBits
  rw [Nat.pow_succ] at hn
  rcases Nat.lt_or_ge n (2 ^ f.fractionBits) with hlt | hge
  · have hu := h.resolve_left (Nat.not_le.2 hlt)
    have := f.mantissa_of_lt hlt
    rw [hu, Nat.zero_mul, Nat.zero_add]
    simpa using this
  · obtain ⟨k, rfl⟩ := Nat.exists_eq_add_of_le hge
    have hk : k < 2 ^ f.fractionBits := by omega
    have hg : u * 2 ^ f.fractionBits + (2 ^ f.fractionBits + k) =
        k + 2 ^ f.fractionBits * (u + 1) := by
      rw [Nat.mul_add, Nat.mul_one, Nat.mul_comm u]
      omega
    have hle : 2 ^ f.fractionBits ≤ k + 2 ^ f.fractionBits * (u + 1) := by
      rw [Nat.mul_add]
      omega
    rw [hg, f.mantissa_of_le hle, scale, Nat.add_mul_mod_self_left, Nat.mod_eq_of_lt hk,
      Nat.add_mul_div_left _ _ hpos, Nat.div_eq_of_lt hk]
    exact ⟨Nat.add_comm _ _, by omega⟩

theorem exists_sameValue (hm : m < 2 ^ (f.fractionBits + 1)) (hmin : f.minScale ≤ e)
    (hmax : e + 2 < f.minScale + (2 ^ f.exponentBits : Nat)) :
    ∃ g < f.infinity, SameValue m e (f.mantissa g) (f.scale g) := by
  rcases Nat.eq_zero_or_pos m with rfl | hpos
  · have hzero := (f.mantissa_of_lt (Nat.two_pow_pos f.fractionBits)).1
    refine ⟨0, Nat.mul_pos (by omega) (Nat.two_pow_pos _), ?_⟩
    rw [hzero, SameValue, Nat.zero_mul, Nat.zero_mul]
  -- the pattern is that of the product with the exponent lowered as far as it goes
  let unit := max (m.log2 + e - f.fractionBits) f.minScale
  let k := (e - unit).toNat
  let u := (unit - f.minScale).toNat
  have hne : m * 2 ^ k ≠ 0 := Nat.mul_ne_zero (Nat.ne_of_gt hpos) (Nat.ne_of_gt (Nat.two_pow_pos k))
  have hlog : m.log2 < f.fractionBits + 1 := (Nat.log2_lt (Nat.ne_of_gt hpos)).2 hm
  have hbits := log2_mul_two_pow (Nat.ne_of_gt hpos) k
  have hlt : m * 2 ^ k < 2 ^ (f.fractionBits + 1) := (Nat.log2_lt hne).1 (by omega)
  have hnormal : 2 ^ f.fractionBits ≤ m * 2 ^ k ∨ u = 0 := by
    rcases Nat.eq_zero_or_pos u with hu | hu
    · exact .inr hu
    · exact .inl ((Nat.le_log2 hne).1 (by omega))
  obtain ⟨hmantissa, hscale⟩ := f.of_compose hlt hnormal
  refine ⟨u * 2 ^ f.fractionBits + m * 2 ^ k, ?_, ?_⟩
  · have hu : u + 2 ≤ 2 ^ f.exponentBits - 1 := by omega
    have hle := Nat.mul_le_mul_right (2 ^ f.fractionBits) hu
    rw [Nat.pow_succ] at hlt
    rw [Nat.add_mul] at hle
    rw [infinity]
    omega
  · rw [hmantissa, hscale, show f.minScale + (u : Int) = e - k by omega]
    exact SameValue.shift m k e

end BinaryFormat

namespace Binary64

open BinaryFormat

variable {g d : Nat} {x : Binary64}

theorem widenMagnitude_of_sameValue (hg : g < single.infinity) (hd : d < double.infinity)
    (h : SameValue (single.mantissa g) (single.scale g) (double.mantissa d) (double.scale d)) :
    widenMagnitude g = d := by
  rw [widenMagnitude, if_neg (by omega), if_neg (by omega), double.round?_of_sameValue h hd]
  rfl

theorem narrowMagnitude?_of_sameValue (hg : g < single.infinity) (hd : d < double.infinity)
    (h : SameValue (single.mantissa g) (single.scale g) (double.mantissa d) (double.scale d)) :
    narrowMagnitude? d = some g := by
  rw [narrowMagnitude?, if_neg (by omega), if_neg (by omega),
    single.round?_of_sameValue h.symm hg]

theorem exists_sameValue_double (hg : g < single.infinity) : ∃ d < double.infinity,
    SameValue (single.mantissa g) (single.scale g) (double.mantissa d) (double.scale d) := by
  have hmantissa := single.mantissa_lt g
  have hscale := single.minScale_le_scale g
  simp only [infinity, scale, minScale, single] at hg hscale hmantissa ⊢
  apply double.exists_sameValue
  · exact Nat.lt_trans hmantissa (by decide)
  · simp only [minScale, double]
    omega
  · simp only [minScale, double]
    omega

theorem narrowMagnitude?_widenMagnitude (hg : g ≤ single.infinity) :
    widenMagnitude g ≤ double.infinity ∧ narrowMagnitude? (widenMagnitude g) = some g := by
  rcases Nat.lt_or_eq_of_le hg with hlt | rfl
  · obtain ⟨d, hd, h⟩ := exists_sameValue_double hlt
    rw [widenMagnitude_of_sameValue hlt hd h]
    exact ⟨Nat.le_of_lt hd, narrowMagnitude?_of_sameValue hlt hd h⟩
  · exact ⟨by decide, by decide⟩

/-- Whether the number is an infinity, or `m * 2 ^ e` with the precision and the range of a
single. -/
def IsSingle (x : Binary64) : Prop :=
  x.isInfinite ∨ x.isFinite ∧ ∃ m e, m < 2 ^ (24 : Nat) ∧ -149 ≤ e ∧ e ≤ 104 ∧
    SameValue m e (double.mantissa x.magnitude) (double.scale x.magnitude)

theorem IsSingle.exists_narrowMagnitude? (h : x.IsSingle) : ∃ g ≤ single.infinity,
    narrowMagnitude? x.magnitude = some g ∧ widenMagnitude g = x.magnitude := by
  rcases h with h | ⟨hfinite, m, e, hm, hmin, hmax, hvalue⟩
  · have hx : x.magnitude = double.infinity := by simpa [isInfinite] using h
    rw [hx]
    exact ⟨single.infinity, Nat.le_refl _, by decide, by decide⟩
  · have hx : x.magnitude < double.infinity := by simpa [isFinite] using hfinite
    obtain ⟨g, hg, hsingle⟩ := single.exists_sameValue (m := m) (e := e) hm
      (by simp only [minScale, single]; omega) (by simp only [minScale, single]; omega)
    have h := hsingle.symm.trans hvalue
    exact ⟨g, Nat.le_of_lt hg, narrowMagnitude?_of_sameValue hg hx h,
      widenMagnitude_of_sameValue hg hx h⟩

theorem signBit_single : single.signBit = 2147483648 :=
  rfl

theorem signBit_double : double.signBit = 9223372036854775808 :=
  rfl

theorem negative_ofMagnitude (negative : Bool) (hd : d < double.signBit) :
    (ofMagnitude negative d).negative = negative ∧ (ofMagnitude negative d).magnitude = d := by
  rw [signBit_double] at hd
  simp only [Binary64.negative, magnitude, ofMagnitude, UInt64.toNat_ofNat', signBit_double]
  cases negative <;> simp <;> omega

theorem ofMagnitude_magnitude (x : Binary64) : ofMagnitude x.negative x.magnitude = x := by
  have hx := x.bits.toNat_lt
  have hbits : x.magnitude = x.bits.toNat % 9223372036854775808 := rfl
  suffices h : (ofMagnitude x.negative x.magnitude).bits.toNat = x.bits.toNat by
    cases x
    exact congrArg mk (UInt64.toNat_inj.1 h)
  simp only [ofMagnitude, UInt64.toNat_ofNat', signBit_double, hbits]
  rcases Nat.lt_or_ge x.bits.toNat double.signBit with h | h
  · have hsign : x.negative = false := decide_eq_false (Nat.not_le.2 h)
    rw [signBit_double] at h
    rw [hsign, if_neg Bool.false_ne_true]
    omega
  · have hsign : x.negative = true := decide_eq_true h
    rw [signBit_double] at h
    rw [hsign, if_pos rfl]
    omega

/-- A single comes back from the double that it is widened to. -/
theorem narrow?_widen {pattern : Nat} (hp : pattern < 2 ^ (32 : Nat))
    (h : pattern % single.signBit ≤ single.infinity) : narrow? (widen pattern) = some pattern := by
  obtain ⟨hle, hnarrow⟩ := narrowMagnitude?_widenMagnitude h
  have hd : widenMagnitude (pattern % single.signBit) < double.signBit :=
    Nat.lt_of_le_of_lt hle (by decide)
  obtain ⟨hnegative, hmagnitude⟩ :=
    negative_ofMagnitude (decide (single.signBit ≤ pattern)) hd
  rw [narrow?, widen, hmagnitude, hnegative, hnarrow, Option.map_some, signBit_single]
  simp only [decide_eq_true_eq, Option.some.injEq]
  split <;> omega

theorem widenMagnitude_of_infinity_lt (hg : single.infinity < g) :
    double.infinity < widenMagnitude g ∧ widenMagnitude g < double.signBit := by
  have hquiet := Nat.left_le_or (n := 2 ^ (double.fractionBits - 1))
    (m := g % 2 ^ single.fractionBits * 2 ^ droppedBits % 2 ^ double.fractionBits)
  have hlt : 2 ^ (double.fractionBits - 1) |||
      g % 2 ^ single.fractionBits * 2 ^ droppedBits % 2 ^ double.fractionBits <
        2 ^ double.fractionBits :=
    Nat.or_lt_two_pow (Nat.pow_lt_pow_right (by decide) (by decide))
      (Nat.mod_lt _ (Nat.two_pow_pos _))
  have hpos : 0 < 2 ^ (double.fractionBits - 1) := Nat.two_pow_pos _
  have hsign : double.infinity + 2 ^ double.fractionBits = double.signBit := rfl
  rw [widenMagnitude, if_pos hg, quietNaN]
  omega

theorem narrow?_widen_ne_none {pattern : Nat} (hp : pattern < 2 ^ (32 : Nat)) :
    narrow? (widen pattern) ≠ none := by
  by_cases h : pattern % single.signBit ≤ single.infinity
  · rw [narrow?_widen hp h]
    exact Option.some_ne_none pattern
  · obtain ⟨hnan, hlt⟩ := widenMagnitude_of_infinity_lt (Nat.not_le.1 h)
    rw [narrow?, widen, (negative_ofMagnitude _ hlt).2, narrowMagnitude?, if_pos hnan]
    exact Option.some_ne_none _

theorem IsSingle.exists_narrow? (h : x.IsSingle) :
    ∃ pattern < 2 ^ (32 : Nat), narrow? x = some pattern ∧ widen pattern = x := by
  obtain ⟨g, hg, hnarrow, hwiden⟩ := h.exists_narrowMagnitude?
  have hbits : g < 2147483648 := Nat.lt_of_le_of_lt hg (by decide)
  have hx := x.ofMagnitude_magnitude
  rw [narrow?, hnarrow, Option.map_some, signBit_single]
  cases hnegative : x.negative with
  | true =>
    refine ⟨2147483648 + g, by omega, by rw [if_pos rfl], ?_⟩
    rw [widen, signBit_single, Nat.add_mod_left, Nat.mod_eq_of_lt hbits, hwiden,
      decide_eq_true (Nat.le_add_right _ _), ← hnegative, hx]
  | false =>
    refine ⟨g, by omega, by rw [if_neg Bool.false_ne_true], ?_⟩
    rw [widen, signBit_single, Nat.mod_eq_of_lt hbits, hwiden,
      decide_eq_false (Nat.not_le.2 hbits), ← hnegative, hx]

theorem narrowMagnitude?_le (h : narrowMagnitude? d = some g) (hd : d ≤ double.infinity) :
    g ≤ single.infinity := by
  rw [narrowMagnitude?, if_neg (Nat.not_lt.2 hd)] at h
  split at h
  · cases h
    exact Nat.le_refl _
  · exact Nat.le_of_lt (single.round?_lt (by decide) h)

theorem narrow?_le {pattern : Nat} (h : narrow? x = some pattern) (hx : x.isNaN = false) :
    pattern < 2 ^ (32 : Nat) ∧ pattern % single.signBit ≤ single.infinity := by
  obtain ⟨g, hg, rfl⟩ := Option.map_eq_some_iff.1 h
  have hle := narrowMagnitude?_le hg (Nat.not_lt.1 (of_decide_eq_false hx))
  have hbits : g < 2147483648 := Nat.lt_of_le_of_lt hle (by decide)
  rw [signBit_single]
  split
  · rw [Nat.add_mod_left, Nat.mod_eq_of_lt hbits]
    exact ⟨by omega, hle⟩
  · rw [Nat.mod_eq_of_lt hbits]
    exact ⟨by omega, hle⟩

end Binary64

end RecordCodec
