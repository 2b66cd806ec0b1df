import VmLauncher.Proofs.Binary64.Integers
-- Rounding as a map of values: it keeps their order, and leaves alone what is a number.
namespace VmLauncher.Binary64

-- What some number holds. The significand may have zeros in front.
def Representable (value : ℚ) : Prop :=
  ∃ (m : Nat) (e : Int), m < overfull ∧ minExponent ≤ e ∧ e ≤ maxExponent ∧
    (m : ℚ) * 2 ^ e = value

-- What a ratio would be rounded to if there were no largest number.
def nearest (num den : Nat) : ℚ := rounded num den * 2 ^ quantum num den

theorem roundHalfEven_le_iff_mul {num den : Nat} (hd : 0 < den) (m : Nat) :
    roundHalfEven num den ≤ m ↔
      2 * num < 2 * (m * den) + den ∨ 2 * num = 2 * (m * den) + den ∧ m % 2 = 0 := by
  have hdiv := Nat.div_add_mod' num den
  have hmod := Nat.mod_lt num hd
  unfold roundHalfEven
  dsimp only
  generalize num / den = q, num % den = r at hdiv hmod ⊢
  subst hdiv
  rcases Nat.lt_trichotomy q m with hlt | rfl | hgt
  · have hgap : q * den + den ≤ m * den := by
      rw [← Nat.succ_mul]
      exact Nat.mul_le_mul_right den hlt
    split_ifs <;> omega
  · split_ifs <;> omega
  · have hgap : m * den + den ≤ q * den := by
      rw [← Nat.succ_mul]
      exact Nat.mul_le_mul_right den hgt
    split_ifs <;> omega

-- A tie goes down to an even number only.
theorem roundHalfEven_le_iff {num den : Nat} (hd : 0 < den) (m : Nat) :
    roundHalfEven num den ≤ m ↔
      (num : ℚ) / den < m + 1 / 2 ∨ (num : ℚ) / den = m + 1 / 2 ∧ m % 2 = 0 := by
  have hpos : (0 : ℚ) < den := by exact_mod_cast hd
  have hscale : ((m : ℚ) + 1 / 2) * den = (2 * (m * den) + den : Nat) / 2 := by
    push_cast
    ring
  rw [roundHalfEven_le_iff_mul hd, div_lt_iff₀ hpos, div_eq_iff hpos.ne', hscale,
    lt_div_iff₀ two_pos, eq_div_iff two_ne_zero, mul_comm (num : ℚ)]
  norm_cast

theorem roundHalfEven_mono {num den num' den' : Nat} (hd : 0 < den) (hd' : 0 < den')
    (h : (num : ℚ) / den ≤ num' / den') : roundHalfEven num den ≤ roundHalfEven num' den' := by
  rw [roundHalfEven_le_iff hd]
  rcases (roundHalfEven_le_iff hd' _).mp le_rfl with hbelow | ⟨htie, heven⟩
  · exact .inl (h.trans_lt hbelow)
  · rcases h.lt_or_eq with hlt | heq
    · exact .inl (hlt.trans_eq htie)
    · exact .inr ⟨heq.trans htie, heven⟩

section Nearest

variable {num den num' den' : Nat}

theorem nearest_zero (den : Nat) : nearest 0 den = 0 := by
  have hzero : rounded 0 den = 0 := by simp [rounded, roundHalfEven]
  rw [nearest, hzero, Nat.cast_zero, zero_mul]

theorem nearest_nonneg (num den : Nat) : 0 ≤ nearest num den := by
  unfold nearest
  positivity

theorem quantum_mono (hn : 0 < num) (hd : 0 < den) (hn' : 0 < num') (hd' : 0 < den')
    (h : (num : ℚ) / den ≤ num' / den') : quantum num den ≤ quantum num' den' := by
  have hmin := minExponent_le_quantum num' den'
  rcases (quantum_spec hn hd).2 with hleast | hfull
  · omega
  · have hlt := hfull.trans_lt (h.trans_lt (quantum_spec hn' hd').1)
    have hexponents := (zpow_lt_zpow_iff_right₀ one_lt_two).mp hlt
    omega

-- Where the greater ratio has coarser places, a power of two lies between the two.
theorem nearest_mono (hd : 0 < den) (hd' : 0 < den') (h : (num : ℚ) / den ≤ num' / den') :
    nearest num den ≤ nearest num' den' := by
  rcases Nat.eq_zero_or_pos num with rfl | hn
  · rw [nearest_zero]
    exact nearest_nonneg num' den'
  have hn' : 0 < num' := by
    have hpos : (0 : ℚ) < num / den := by positivity
    rcases Nat.eq_zero_or_pos num' with rfl | hn'
    · rw [Nat.cast_zero, zero_div] at h
      exact absurd h (not_le.mpr hpos)
    · exact hn'
  rcases (quantum_mono hn hd hn' hd' h).lt_or_eq with hlt | heq
  · have hmin := minExponent_le_quantum num den
    have hfull := leastFull_le_rounded hn' hd' (by omega)
    have hover := rounded_le_overfull hn hd
    calc nearest num den ≤ overfull * 2 ^ quantum num den := by
          unfold nearest
          gcongr
      _ = leastFull * 2 ^ (quantum num den + 1) := overfull_mul _
      _ ≤ leastFull * 2 ^ quantum num' den' := by
          gcongr
          · exact one_le_two
          · exact hlt
      _ ≤ nearest num' den' := by
          unfold nearest
          gcongr
  · have hround : rounded num den ≤ rounded num' den' := by
      rw [rounded, rounded, heq]
      apply roundHalfEven_mono (shiftLeft_pos hd _) (shiftLeft_pos hd' _)
      rw [shiftLeft_div_shiftLeft, shiftLeft_div_shiftLeft]
      gcongr
    rw [nearest, nearest, heq]
    gcongr

-- Rounding sees only how many last places a ratio has.
theorem rounded_congr (hd : 0 < den) (hd' : 0 < den')
    (h : (num : ℚ) / den / 2 ^ quantum num den = num' / den' / 2 ^ quantum num' den') :
    rounded num den = rounded num' den' := by
  rw [← shiftLeft_div_shiftLeft, ← shiftLeft_div_shiftLeft] at h
  have hpos := shiftLeft_pos hd (quantum num den).toNat
  have hpos' := shiftLeft_pos hd' (quantum num' den').toNat
  exact le_antisymm (roundHalfEven_mono hpos hpos' h.le) (roundHalfEven_mono hpos' hpos h.ge)

-- Equal ratios are rounded to one number, however they are written.
theorem ofRatio_congr (hd : 0 < den) (hd' : 0 < den') (h : (num : ℚ) / den = num' / den')
    (negative : Bool) : ofRatio negative num den = ofRatio negative num' den' := by
  have hden : (0 : ℚ) < den := by exact_mod_cast hd
  have hden' : (0 : ℚ) < den' := by exact_mod_cast hd'
  rcases Nat.eq_zero_or_pos num with rfl | hn
  · rw [Nat.cast_zero, zero_div, eq_comm, div_eq_zero_iff] at h
    obtain rfl : num' = 0 := by exact_mod_cast h.resolve_right hden'.ne'
    rfl
  have hn' : 0 < num' := by
    have hpos : (0 : ℚ) < num' / den' := h ▸ div_pos (by exact_mod_cast hn) hden
    exact_mod_cast (div_pos_iff_of_pos_right hden').mp hpos
  have hquantum := le_antisymm (quantum_mono hn hd hn' hd' h.le) (quantum_mono hn' hd' hn hd h.ge)
  have hrounded := rounded_congr hd hd' (by rw [h, hquantum])
  by_cases hc : rounded num den = overfull
  · rw [ofRatio_of_carry hn hc, ofRatio_of_carry hn' (hrounded ▸ hc), hquantum]
  · rw [ofRatio_of_fits hn hc, ofRatio_of_fits hn' (hrounded ▸ hc), hquantum, hrounded]

theorem quantum_le_of_eq {m : Nat} {e : Int} (hn : 0 < num) (hd : 0 < den) (hm : m < overfull)
    (he : minExponent ≤ e) (h : (m : ℚ) * 2 ^ e = num / den) : quantum num den ≤ e := by
  rcases (quantum_spec hn hd).2 with hleast | hfull
  · omega
  · have hbelow : (m : ℚ) * 2 ^ e < 2 ^ (53 : Int) * 2 ^ e := by
      gcongr
      exact_mod_cast hm
    rw [h, ← zpow_add₀ two_ne_zero] at hbelow
    have hexponents := (zpow_lt_zpow_iff_right₀ one_lt_two).mp (hfull.trans_lt hbelow)
    omega

-- The significand of what holds the ratio already is only scaled.
theorem nearest_eq_of_representable (hd : 0 < den) (h : Representable (num / den)) :
    nearest num den = num / den := by
  rcases Nat.eq_zero_or_pos num with rfl | hn
  · rw [nearest_zero, Nat.cast_zero, zero_div]
  obtain ⟨m, e, hm, hmin, -, hvalue⟩ := h
  have hquantum := quantum_le_of_eq hn hd hm hmin hvalue
  obtain ⟨j, hj⟩ := Int.eq_ofNat_of_zero_le (Int.sub_nonneg_of_le hquantum)
  have hscaled : ((m * 2 ^ j : Nat) : ℚ) * 2 ^ quantum num den = num / den := by
    rw [← hvalue, show e = j + quantum num den by omega, zpow_add₀ two_ne_zero, zpow_natCast]
    push_cast
    ring
  have hrounded : rounded num den = m * 2 ^ j :=
    le_antisymm (round_scaled_le hd hscaled.ge) (le_round_scaled hd hscaled.le)
  rw [nearest, hrounded, hscaled]

-- Every number is below this.
def bound : ℚ := 2 ^ (maxExponent + 53)

theorem isFinite_ofRatio_iff (hn : 0 < num) (hd : 0 < den) (negative : Bool) :
    (ofRatio negative num den).isFinite = true ↔ nearest num den < bound := by
  have hfull (e : Int) : (leastFull : ℚ) * 2 ^ e = 2 ^ (e + 52) := by
    rw [add_comm, zpow_add₀ two_ne_zero]
    rfl
  have hmax : maxExponent = 971 := rfl
  by_cases hc : rounded num den = overfull
  · rw [ofRatio_of_carry hn hc, nearest, hc, overfull_mul, hfull, bound,
      zpow_lt_zpow_iff_right₀ one_lt_two]
    split_ifs <;> simp only [isFinite, Bool.false_eq_true, true_iff, false_iff] <;> omega
  · rw [ofRatio_of_fits hn hc, nearest, bound]
    split_ifs with hover
    · have hle := leastFull_le_rounded hn hd (by rw [minExponent]; omega)
      have hreach : (2 : ℚ) ^ (maxExponent + 53) ≤ rounded num den * 2 ^ quantum num den :=
        calc (2 : ℚ) ^ (maxExponent + 53) ≤ 2 ^ (quantum num den + 52) :=
              zpow_le_zpow_right₀ one_le_two (by omega)
          _ = leastFull * 2 ^ quantum num den := (hfull _).symm
          _ ≤ rounded num den * 2 ^ quantum num den := by gcongr
      simp [isFinite, hreach]
    · have hlt := lt_of_le_of_ne (rounded_le_overfull hn hd) hc
      have hbelow : (rounded num den : ℚ) * 2 ^ quantum num den < 2 ^ (maxExponent + 53) :=
        calc (rounded num den : ℚ) * 2 ^ quantum num den < overfull * 2 ^ quantum num den := by
              gcongr
          _ = 2 ^ (quantum num den + 1 + 52) := by rw [overfull_mul, hfull]
          _ ≤ 2 ^ (maxExponent + 53) := zpow_le_zpow_right₀ one_le_two (by omega)
      simp [isFinite, hbelow]

theorem Holds.unique {x : Binary64} {a b : ℚ} (ha : x.Holds a) (hb : x.Holds b) : a = b := by
  obtain ⟨m, e, rfl, rfl⟩ := ha
  obtain ⟨n, f, heq, rfl⟩ := hb
  obtain ⟨-, rfl, rfl⟩ := finite.inj heq
  rfl

theorem Holds.isFinite {x : Binary64} {value : ℚ} (h : x.Holds value) : x.isFinite = true := by
  obtain ⟨m, e, rfl, -⟩ := h
  rfl

theorem bound_pos : 0 < bound := by
  unfold bound
  positivity

theorem zero_holds : (zero false).Holds 0 := ⟨0, minExponent, rfl, by simp⟩

theorem ofRatio_holds_iff (hd : 0 < den) (value : ℚ) :
    (ofRatio false num den).Holds value ↔ nearest num den = value ∧ value < bound := by
  rcases Nat.eq_zero_or_pos num with rfl | hn
  · rw [nearest_zero, show ofRatio false 0 den = zero false from rfl]
    constructor
    · intro h
      obtain rfl := h.unique zero_holds
      exact ⟨rfl, bound_pos⟩
    · rintro ⟨rfl, -⟩
      exact zero_holds
  · have hfinite := isFinite_ofRatio_iff hn hd false
    constructor
    · intro h
      have hlt := hfinite.mp h.isFinite
      obtain rfl := h.unique (ofRatio_of_isFinite hn h.isFinite)
      exact ⟨rfl, hlt⟩
    · rintro ⟨rfl, hlt⟩
      exact ofRatio_of_isFinite hn (hfinite.mpr hlt)

end Nearest

theorem Representable.lt_bound {value : ℚ} (h : Representable value) : value < bound := by
  obtain ⟨m, e, hm, -, hmax, rfl⟩ := h
  calc (m : ℚ) * 2 ^ e < overfull * 2 ^ e := by gcongr
    _ ≤ overfull * 2 ^ maxExponent := by
        gcongr
        exact one_le_two
    _ = bound := by
        rw [bound, add_comm, zpow_add₀ two_ne_zero]
        rfl

theorem Canonical.representable {x : Binary64} {value : ℚ} (hx : x.Canonical)
    (h : x.Holds value) : Representable value := by
  obtain ⟨m, e, rfl, hvalue⟩ := h
  exact ⟨m, e, hx.1, hx.2.1, hx.2.2.1, hvalue⟩

theorem representable_natCast {n : Nat} (h : n ≤ overfull) : Representable n := by
  rcases h.lt_or_eq with hlt | rfl
  · exact ⟨n, 0, hlt, by decide, by decide, by simp⟩
  · exact ⟨leastFull, 1, by decide, by decide, by decide, by norm_cast⟩

theorem representable_two_pow {j : Nat} (h : (j : Int) ≤ maxExponent) :
    Representable ((2 ^ j : Nat) : ℚ) :=
  ⟨1, j, by decide, by rw [minExponent]; omega, h, by rw [zpow_natCast]; push_cast; ring⟩

-- Scaling keeps the significand; a way down has to end above the finest places.
theorem Representable.mul_two_zpow {value : ℚ} (h : Representable value) (hpos : 0 < value)
    {k : Int} (hlow : 0 ≤ k ∨ (2 : ℚ) ^ (minExponent + 53) ≤ value * 2 ^ k)
    (hhigh : value * 2 ^ k < 2 ^ maxExponent) : Representable (value * 2 ^ k) := by
  obtain ⟨m, e, hm, hmin, -, rfl⟩ := h
  have hscaled : (m : ℚ) * 2 ^ e * 2 ^ k = m * 2 ^ (e + k) := by
    rw [zpow_add₀ two_ne_zero, mul_assoc]
  have hone : (1 : ℚ) ≤ m := by
    have hm' : m ≠ 0 := by
      rintro rfl
      simp at hpos
    exact_mod_cast Nat.one_le_iff_ne_zero.mpr hm'
  rw [hscaled] at hlow hhigh ⊢
  refine ⟨m, e + k, hm, ?_, ?_, rfl⟩
  · rcases hlow with hup | hlow
    · omega
    · have hbelow : (m : ℚ) * 2 ^ (e + k) < 2 ^ (53 : Int) * 2 ^ (e + k) := by
        gcongr
        exact_mod_cast hm
      rw [← zpow_add₀ two_ne_zero] at hbelow
      have hexponents := (zpow_lt_zpow_iff_right₀ one_lt_two).mp (hlow.trans_lt hbelow)
      omega
  · have hunit : (2 : ℚ) ^ (e + k) < 2 ^ maxExponent :=
      lt_of_le_of_lt (le_mul_of_one_le_left (by positivity) hone) hhigh
    exact ((zpow_lt_zpow_iff_right₀ one_lt_two).mp hunit).le

-- What a value is rounded to.
def Rounds (x : Binary64) (value : ℚ) : Prop :=
  ∃ num den : Nat, 0 < den ∧ (num : ℚ) / den = value ∧ x = ofRatio false num den

namespace Rounds

variable {x y : Binary64} {a b : ℚ}

theorem canonical (h : x.Rounds a) : x.Canonical := by
  obtain ⟨num, den, hd, -, rfl⟩ := h
  exact ofRatio_canonical hd false num

theorem holds (h : x.Rounds a) (ha : Representable a) : x.Holds a := by
  obtain ⟨num, den, hd, rfl, rfl⟩ := h
  exact (ofRatio_holds_iff hd _).mpr ⟨nearest_eq_of_representable hd ha, ha.lt_bound⟩

theorem eq_infinity_or_holds (h : x.Rounds a) : x = infinity false ∨ ∃ v, x.Holds v := by
  obtain ⟨num, den, hd, -, rfl⟩ := h
  rcases Nat.eq_zero_or_pos num with rfl | hn
  · exact .inr ⟨0, zero_holds⟩
  · exact (ofRatio_cases hn false).imp_right fun ⟨m, e, hfinite, hvalue⟩ =>
      ⟨_, m, e, hfinite, hvalue⟩

-- What is below something finite is finite, and rounding keeps it below.
theorem mono (hx : x.Rounds a) (hy : y.Rounds b) (hab : a ≤ b) {w : ℚ} (hw : y.Holds w) :
    ∃ v, x.Holds v ∧ v ≤ w := by
  obtain ⟨num, den, hd, rfl, rfl⟩ := hx
  obtain ⟨num', den', hd', rfl, rfl⟩ := hy
  obtain ⟨rfl, hlt⟩ := (ofRatio_holds_iff hd' _).mp hw
  have hle := nearest_mono hd hd' hab
  exact ⟨nearest num den, (ofRatio_holds_iff hd _).mpr ⟨rfl, hle.trans_lt hlt⟩, hle⟩

end Rounds

end VmLauncher.Binary64
