import VmLauncher.Binary64
import Mathlib.Algebra.Order.Field.Power
import Mathlib.Data.Nat.Cast.Order.Field
import Mathlib.Tactic.FieldSimp
import Mathlib.Tactic.Linarith
import Mathlib.Tactic.Positivity
import Mathlib.Tactic.Ring
import Mathlib.Tactic.SplitIfs
-- What one rounding makes of a ratio.
namespace VmLauncher.Binary64

theorem zpow_eq_div (a : ℚ) (e : Int) : a ^ e = a ^ e.toNat / a ^ (-e).toNat := by
  rcases Int.le_total 0 e with he | he
  · have hneg : (-e).toNat = 0 := by omega
    rw [hneg, pow_zero, div_one, ← zpow_natCast, Int.toNat_of_nonneg he]
  · have hpos : e.toNat = 0 := by omega
    rw [hpos, pow_zero, one_div, ← zpow_natCast, Int.toNat_of_nonneg (by omega), zpow_neg,
      inv_inv]

-- Two shifts, of which one is by nothing, scale a ratio by a power of two.
theorem shiftLeft_div_shiftLeft (num den : Nat) (e : Int) :
    ((num <<< (-e).toNat : Nat) : ℚ) / (den <<< e.toNat : Nat) = (num : ℚ) / den / 2 ^ e := by
  rw [zpow_eq_div 2 e, Nat.shiftLeft_eq, Nat.shiftLeft_eq]
  push_cast
  field_simp

theorem shiftLeft_pos {den : Nat} (hd : 0 < den) (n : Nat) : 0 < den <<< n := by
  rw [Nat.shiftLeft_eq]
  positivity

theorem ratioBelow_iff {den : Nat} (hd : 0 < den) (num : Nat) (e : Int) :
    ratioBelow num den e = true ↔ (num : ℚ) / den < 2 ^ e := by
  have hpos : (0 : ℚ) < (den <<< e.toNat : Nat) := by exact_mod_cast shiftLeft_pos hd _
  have hscale : (0 : ℚ) < 2 ^ e := by positivity
  have h := shiftLeft_div_shiftLeft num den e
  rw [ratioBelow, decide_eq_true_iff, ← Nat.cast_lt (α := ℚ), ← div_lt_one hpos, h,
    div_lt_one hscale]

theorem two_zpow_log2_le {n : Nat} (hn : 0 < n) :
    (2 : ℚ) ^ (n.log2 : Int) ≤ n ∧ (n : ℚ) < 2 ^ (n.log2 + 1 : Int) := by
  have hle := Nat.log2_self_le (Nat.ne_of_gt hn)
  have hlt : n < 2 ^ (n.log2 + 1) := Nat.lt_log2_self
  constructor
  · rw [zpow_natCast]
    exact_mod_cast hle
  · exact_mod_cast hlt

theorem ratio_bounds {num den : Nat} (hn : 0 < num) (hd : 0 < den) :
    (2 : ℚ) ^ ((num.log2 : Int) - den.log2 - 1) ≤ num / den ∧
      (num : ℚ) / den < 2 ^ ((num.log2 : Int) - den.log2 + 1) := by
  obtain ⟨hnum, hnum'⟩ := two_zpow_log2_le hn
  obtain ⟨hden, hden'⟩ := two_zpow_log2_le hd
  have hpos : (0 : ℚ) < den := by exact_mod_cast hd
  constructor
  · rw [le_div_iff₀ hpos]
    calc (2 : ℚ) ^ ((num.log2 : Int) - den.log2 - 1) * den
        ≤ 2 ^ ((num.log2 : Int) - den.log2 - 1) * 2 ^ (den.log2 + 1 : Int) := by gcongr
      _ = 2 ^ (num.log2 : Int) := by
          rw [← zpow_add₀ two_ne_zero]
          congr 1
          ring
      _ ≤ num := hnum
  · rw [div_lt_iff₀ hpos]
    calc (num : ℚ) < 2 ^ (num.log2 + 1 : Int) := hnum'
      _ = 2 ^ ((num.log2 : Int) - den.log2 + 1) * 2 ^ (den.log2 : Int) := by
          rw [← zpow_add₀ two_ne_zero]
          congr 1
          ring
      _ ≤ 2 ^ ((num.log2 : Int) - den.log2 + 1) * den := by gcongr

theorem minExponent_le_quantum (num den : Nat) : minExponent ≤ quantum num den := Int.le_max_left ..

-- Below the quantum a significand fits, and above the least exponent only just.
theorem quantum_spec {num den : Nat} (hn : 0 < num) (hd : 0 < den) :
    (num : ℚ) / den < 2 ^ (quantum num den + 53) ∧
      (quantum num den = minExponent ∨ (2 : ℚ) ^ (quantum num den + 52) ≤ num / den) := by
  obtain ⟨hlow, hhigh⟩ := ratio_bounds hn hd
  set k : Int := (num.log2 : Int) - den.log2 with hk
  have hmono {a b : Int} (h : a ≤ b) : (2 : ℚ) ^ a ≤ 2 ^ b := zpow_le_zpow_right₀ one_le_two h
  have hfit : ∃ e : Int, quantum num den = max minExponent e ∧
      (num : ℚ) / den < 2 ^ (e + 53) ∧ (2 : ℚ) ^ (e + 52) ≤ num / den := by
    by_cases hb : ratioBelow num den k = true
    · have hlt := (ratioBelow_iff hd num k).mp hb
      refine ⟨k - 53, ?_, ?_, ?_⟩
      · simp [quantum, ← hk, hb, precision]
      · rwa [show k - 53 + 53 = k by ring]
      · rwa [show k - 53 + 52 = k - 1 by ring]
    · have hle := not_lt.mp ((ratioBelow_iff hd num k).not.mp hb)
      refine ⟨k + 1 - 53, ?_, ?_, ?_⟩
      · simp [quantum, ← hk, hb, precision]
      · rwa [show k + 1 - 53 + 53 = k + 1 by ring]
      · rwa [show k + 1 - 53 + 52 = k by ring]
  obtain ⟨e, heq, hlt, hle⟩ := hfit
  rw [heq]
  constructor
  · exact hlt.trans_le (hmono (by omega))
  · rcases Int.le_total minExponent e with he | he
    · rw [max_eq_right he]
      exact .inr hle
    · exact .inl (max_eq_left he)

theorem le_roundHalfEven {num den b : Nat} (hd : 0 < den) (h : b * den ≤ num) :
    b ≤ roundHalfEven num den := by
  have hq : b ≤ num / den := (Nat.le_div_iff_mul_le hd).mpr h
  unfold roundHalfEven
  dsimp only
  split_ifs <;> omega

theorem roundHalfEven_le {num den b : Nat} (hd : 0 < den) (h : num ≤ b * den) :
    roundHalfEven num den ≤ b := by
  have hdiv := Nat.div_add_mod num den
  have hq : num / den ≤ b := Nat.div_le_of_le_mul (by rwa [Nat.mul_comm] at h)
  unfold roundHalfEven
  dsimp only
  by_cases hb : num / den = b
  · have hr : num % den = 0 := by
      rw [hb, Nat.mul_comm] at hdiv
      omega
    rw [if_pos (by omega)]
    exact hq
  · split_ifs <;> omega

theorem le_round_scaled {num den b : Nat} {e : Int} (hd : 0 < den)
    (h : (b : ℚ) * 2 ^ e ≤ num / den) :
    b ≤ roundHalfEven (num <<< (-e).toNat) (den <<< e.toNat) := by
  have hpos := shiftLeft_pos hd e.toNat
  refine le_roundHalfEven hpos ?_
  rw [← Nat.cast_le (α := ℚ), Nat.cast_mul, ← le_div_iff₀ (by exact_mod_cast hpos),
    shiftLeft_div_shiftLeft, le_div_iff₀ (by positivity)]
  exact h

theorem round_scaled_le {num den b : Nat} {e : Int} (hd : 0 < den)
    (h : (num : ℚ) / den ≤ b * 2 ^ e) :
    roundHalfEven (num <<< (-e).toNat) (den <<< e.toNat) ≤ b := by
  have hpos := shiftLeft_pos hd e.toNat
  refine roundHalfEven_le hpos ?_
  rw [← Nat.cast_le (α := ℚ), Nat.cast_mul, ← div_le_iff₀ (by exact_mod_cast hpos),
    shiftLeft_div_shiftLeft, div_le_iff₀ (by positivity)]
  exact h

-- The significand that a ratio is rounded to, before a carry.
def rounded (num den : Nat) : Nat :=
  roundHalfEven (num <<< (-quantum num den).toNat) (den <<< (quantum num den).toNat)

theorem ofRatio_of_carry {num den : Nat} (hn : 0 < num) (h : rounded num den = overfull)
    (negative : Bool) :
    ofRatio negative num den =
      if maxExponent < quantum num den + 1 then infinity negative
      else finite negative leastFull (quantum num den + 1) := by
  unfold rounded at h
  simp [ofRatio, Nat.ne_of_gt hn, h]

theorem ofRatio_of_fits {num den : Nat} (hn : 0 < num) (h : rounded num den ≠ overfull)
    (negative : Bool) :
    ofRatio negative num den =
      if maxExponent < quantum num den then infinity negative
      else finite negative (rounded num den) (quantum num den) := by
  unfold rounded at h ⊢
  simp [ofRatio, Nat.ne_of_gt hn, h]

theorem rounded_le_overfull {num den : Nat} (hn : 0 < num) (hd : 0 < den) :
    rounded num den ≤ overfull := by
  have hlt := (quantum_spec hn hd).1
  refine round_scaled_le hd (hlt.le.trans_eq ?_)
  rw [add_comm, zpow_add₀ two_ne_zero]
  rfl

theorem leastFull_le_rounded {num den : Nat} (hn : 0 < num) (hd : 0 < den)
    (h : quantum num den ≠ minExponent) : leastFull ≤ rounded num den := by
  have hle := (quantum_spec hn hd).2.resolve_left h
  refine le_round_scaled hd (le_of_eq_of_le ?_ hle)
  rw [add_comm, zpow_add₀ two_ne_zero]
  rfl

theorem zero_canonical (negative : Bool) : (zero negative).Canonical := by
  simp [zero, Canonical, overfull, minExponent, maxExponent, precision]

theorem ofRatio_canonical {den : Nat} (hd : 0 < den) (negative : Bool) (num : Nat) :
    (ofRatio negative num den).Canonical := by
  rcases Nat.eq_zero_or_pos num with rfl | hn
  · exact zero_canonical negative
  have hmin := minExponent_le_quantum num den
  by_cases hc : rounded num den = overfull
  · rw [ofRatio_of_carry hn hc]
    split_ifs with hmax
    · trivial
    · exact ⟨by decide, by omega, not_lt.mp hmax, .inl le_rfl⟩
  · rw [ofRatio_of_fits hn hc]
    split_ifs with hmax
    · trivial
    · have hlt := lt_of_le_of_ne (rounded_le_overfull hn hd) hc
      refine ⟨hlt, hmin, not_lt.mp hmax, ?_⟩
      by_cases hq : quantum num den = minExponent
      · exact .inr hq
      · exact .inl (leastFull_le_rounded hn hd hq)

theorem overfull_mul (e : Int) : (overfull : ℚ) * 2 ^ e = leastFull * 2 ^ (e + 1) := by
  rw [zpow_add_one₀ two_ne_zero, show (overfull : ℚ) = leastFull * 2 by norm_cast]
  ring

-- A carry changes the significand and the exponent, and not the value.
theorem ofRatio_cases {num den : Nat} (hn : 0 < num) (negative : Bool) :
    ofRatio negative num den = infinity negative ∨
      ∃ (m : Nat) (e : Int), ofRatio negative num den = finite negative m e ∧
        (m : ℚ) * 2 ^ e = rounded num den * 2 ^ quantum num den := by
  by_cases hc : rounded num den = overfull
  · rw [ofRatio_of_carry hn hc]
    split_ifs
    · exact .inl rfl
    · exact .inr ⟨leastFull, quantum num den + 1, rfl, by rw [hc, overfull_mul]⟩
  · rw [ofRatio_of_fits hn hc]
    split_ifs
    · exact .inl rfl
    · exact .inr ⟨rounded num den, quantum num den, rfl, rfl⟩

theorem ofRatio_of_isFinite {num den : Nat} (hn : 0 < num) {negative : Bool}
    (h : (ofRatio negative num den).isFinite = true) :
    ∃ (m : Nat) (e : Int), ofRatio negative num den = finite negative m e ∧
      (m : ℚ) * 2 ^ e = rounded num den * 2 ^ quantum num den := by
  rcases ofRatio_cases hn negative with hinfinite | hfinite
  · rw [hinfinite] at h
    contradiction
  · exact hfinite

-- Numbers from `2 ^ e` on.
def AtLeast (e : Int) : Binary64 → Prop
  | infinity false => True
  | finite false m f => (2 : ℚ) ^ e ≤ m * 2 ^ f
  | _ => False

theorem two_zpow_le_rounded {num den : Nat} {e : Int} (hn : 0 < num) (hd : 0 < den)
    (he : minExponent ≤ e) (h : (2 : ℚ) ^ e ≤ num / den) :
    (2 : ℚ) ^ e ≤ rounded num den * 2 ^ quantum num den := by
  set q := quantum num den with hq
  rcases Int.le_total q e with hqe | hqe
  · obtain ⟨n, hn'⟩ := Int.eq_ofNat_of_zero_le (Int.sub_nonneg_of_le hqe)
    obtain rfl : e = q + n := by omega
    have hb : ((2 ^ n : Nat) : ℚ) * 2 ^ q = 2 ^ (q + n) := by
      rw [zpow_add₀ two_ne_zero, zpow_natCast, mul_comm]
      push_cast
      rfl
    have hle : 2 ^ n ≤ rounded num den := le_round_scaled hd (hb.trans_le h)
    rw [← hb]
    gcongr
  · have hone : 1 ≤ rounded num den := by
      by_cases hmin : q = minExponent
      · have hqe' : e = q := by omega
        refine le_round_scaled hd ?_
        rw [Nat.cast_one, one_mul, ← hq, ← hqe']
        exact h
      · exact le_trans (by decide) (leastFull_le_rounded hn hd hmin)
    calc (2 : ℚ) ^ e ≤ 1 * 2 ^ q := by
          rw [one_mul]
          exact zpow_le_zpow_right₀ one_le_two hqe
      _ ≤ rounded num den * 2 ^ q := by
          gcongr
          exact_mod_cast hone

-- No rounding goes below a power of two that is a number itself.
theorem ofRatio_atLeast {num den : Nat} {e : Int} (hd : 0 < den) (he : minExponent ≤ e)
    (h : (2 : ℚ) ^ e ≤ num / den) : (ofRatio false num den).AtLeast e := by
  have hn : 0 < num := by
    rcases Nat.eq_zero_or_pos num with rfl | hn
    · have hpos : (0 : ℚ) < 2 ^ e := by positivity
      rw [Nat.cast_zero, zero_div] at h
      exact absurd h (not_le.mpr hpos)
    · exact hn
  have hrounded := two_zpow_le_rounded hn hd he h
  by_cases hc : rounded num den = overfull
  · rw [ofRatio_of_carry hn hc]
    split_ifs
    · trivial
    · rw [hc, overfull_mul] at hrounded
      exact hrounded
  · rw [ofRatio_of_fits hn hc]
    split_ifs
    · trivial
    · exact hrounded

end VmLauncher.Binary64
