import VmLauncher.Proofs.Binary64.Rounding
-- Operations give canonical numbers, and positive ones from positive ones.
namespace VmLauncher.Binary64

theorem ofDyadic_canonical (negative : Bool) (m : Nat) (e : Int) :
    (ofDyadic negative m e).Canonical :=
  ofRatio_canonical (shiftLeft_pos Nat.one_pos _) negative _

theorem ofDecimal_canonical (negative : Bool) (n : Nat) (e : Int) :
    (ofDecimal negative n e).Canonical := by
  unfold ofDecimal
  split_ifs
  · exact zero_canonical negative
  · trivial
  · exact zero_canonical negative
  · exact ofRatio_canonical (Nat.pow_pos (by decide)) negative _

theorem neg_canonical {x : Binary64} (h : x.Canonical) : x.neg.Canonical := by
  cases x with
  | nan | infinity => trivial
  | finite => exact h

theorem add_canonical (x y : Binary64) : (x.add y).Canonical := by
  unfold add
  split
  case h_3 => split_ifs <;> trivial
  case h_6 =>
    dsimp only
    split_ifs
    · exact zero_canonical _
    · exact ofDyadic_canonical _ _ _
  all_goals trivial

theorem mul_canonical (x y : Binary64) : (x.mul y).Canonical := by
  unfold mul
  split
  case h_4 | h_5 => split_ifs <;> trivial
  case h_6 => exact ofDyadic_canonical _ _ _
  all_goals trivial

theorem ofDyadic_ratio (m : Nat) (e : Int) :
    ((m <<< e.toNat : Nat) : ℚ) / (1 <<< (-e).toNat : Nat) = m * 2 ^ e := by
  have h := shiftLeft_div_shiftLeft m 1 (-e)
  rw [neg_neg, Nat.cast_one, div_one, zpow_neg, div_inv_eq_mul] at h
  exact h

theorem AtLeast.of_finite {m : Nat} {e f : Int} (h : (2 : ℚ) ^ e ≤ m * 2 ^ f) : 0 < m := by
  rcases Nat.eq_zero_or_pos m with rfl | hm
  · have hpos : (0 : ℚ) < 2 ^ e := by positivity
    rw [Nat.cast_zero, zero_mul] at h
    exact absurd h (not_le.mpr hpos)
  · exact hm

theorem ofNat_atLeast {n : Nat} (hn : 1 ≤ n) : (ofNat n).AtLeast 0 := by
  refine ofRatio_atLeast Nat.one_pos (by decide) ?_
  rw [zpow_zero, Nat.cast_one, div_one]
  exact_mod_cast hn

theorem mul_atLeast {x y : Binary64} {e f : Int} (hx : x.AtLeast e) (hy : y.AtLeast f)
    (hmin : minExponent ≤ e + f) : (x.mul y).AtLeast (e + f) := by
  match x, y with
  | infinity false, infinity false => trivial
  | infinity false, finite false n _ =>
      have hn := AtLeast.of_finite hy
      simp [mul, Nat.ne_of_gt hn, AtLeast]
  | finite false m _, infinity false =>
      have hm := AtLeast.of_finite hx
      simp [mul, Nat.ne_of_gt hm, AtLeast]
  | finite false m a, finite false n b =>
      refine ofRatio_atLeast (shiftLeft_pos Nat.one_pos _) hmin ?_
      rw [ofDyadic_ratio, Nat.cast_mul, zpow_add₀ two_ne_zero, zpow_add₀ two_ne_zero]
      calc (2 : ℚ) ^ e * 2 ^ f ≤ (m * 2 ^ a) * (n * 2 ^ b) := by
            gcongr
            · exact hx
            · exact hy
        _ = m * n * (2 ^ a * 2 ^ b) := by ring

-- Part of one counts as one.
theorem ceil_atLeast {x : Binary64} {e : Int} (h : x.AtLeast e) : x.ceil.AtLeast 0 := by
  match x with
  | infinity false => trivial
  | finite false m f =>
      have hm := AtLeast.of_finite h
      by_cases hf : 0 ≤ f
      · simp only [ceil, hf, if_true, AtLeast, zpow_zero]
        have hone : (1 : ℚ) ≤ m := by exact_mod_cast hm
        exact one_le_mul_of_one_le_of_one_le hone (one_le_zpow₀ one_le_two hf)
      · have hunit := shiftLeft_pos Nat.one_pos (-f).toNat
        have hcount : 1 ≤ (m + 1 <<< (-f).toNat - 1) / 1 <<< (-f).toNat :=
          (Nat.le_div_iff_mul_le hunit).mpr (by omega)
        simp only [ceil, hf, if_false]
        exact ofNat_atLeast hcount

theorem one_le_toNat {x : Binary64} (h : x.AtLeast 0) (hx : x ≠ infinity false) :
    1 ≤ x.toNat := by
  match x with
  | infinity false => exact absurd rfl hx
  | finite false m f =>
      have hpos : (0 : ℚ) < (1 <<< (-f).toNat : Nat) := by
        exact_mod_cast shiftLeft_pos Nat.one_pos _
      have hle : (1 <<< (-f).toNat : Nat) ≤ m <<< f.toNat := by
        rw [AtLeast, zpow_zero, ← ofDyadic_ratio, one_le_div hpos] at h
        exact_mod_cast h
      rw [toNat, Nat.shiftRight_eq_div_pow, Nat.le_div_iff_mul_le (by positivity), one_mul]
      rwa [Nat.shiftLeft_eq, one_mul] at hle

theorem ne_infinity_of_lt {x y : Binary64} (h : x.lt y = true) : x ≠ infinity false := by
  rintro rfl
  cases y <;> simp [lt] at h

theorem finite_true_lt_zero {m : Nat} (hm : 0 < m) (e : Int) :
    (finite true m e).lt (zero false) = true := by
  have hshift : 0 < m <<< (e - min e minExponent).toNat := shiftLeft_pos hm _
  simp only [lt, zero, scaled, Nat.zero_shiftLeft, if_true, Bool.false_eq_true, if_false,
    decide_eq_true_eq]
  omega

-- What is neither negative nor zero is at least the least positive number.
theorem Canonical.atLeast {x : Binary64} (hx : x.Canonical) (hfinite : x.isFinite = true)
    (hnegative : x.lt (zero false) = false) (hzero : x.isZero = false) :
    x.AtLeast minExponent := by
  match x with
  | finite true m e =>
      have hm : 0 < m := Nat.pos_of_ne_zero (by simpa [isZero] using hzero)
      rw [finite_true_lt_zero hm] at hnegative
      contradiction
  | finite false m e =>
      have hm : 0 < m := Nat.pos_of_ne_zero (by simpa [isZero] using hzero)
      have hone : (1 : ℚ) ≤ m := by exact_mod_cast hm
      calc (2 : ℚ) ^ minExponent ≤ 1 * 2 ^ e := by
            rw [one_mul]
            exact zpow_le_zpow_right₀ one_le_two hx.2.1
        _ ≤ m * 2 ^ e := by gcongr

end VmLauncher.Binary64
