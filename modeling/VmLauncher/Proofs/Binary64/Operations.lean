import VmLauncher.Proofs.Binary64.Nearest
import Mathlib.Algebra.Order.Floor.Semiring
import Mathlib.Data.Rat.Floor
-- Operations on numbers that are positive or zero, by the values that these hold: each rounds
-- the exact result once, and comparing and taking the ceiling round nothing.
namespace VmLauncher.Binary64

variable {x y : Binary64} {a b : ℚ}

theorem ofNat_rounds (n : Nat) : (ofNat n).Rounds n := ⟨n, 1, Nat.one_pos, by simp, rfl⟩

-- Up to the integer from which on some are skipped, all integers stand for themselves.
theorem ofNat_holds_self {n : Nat} (h : n ≤ overfull) : (ofNat n).Holds n :=
  (ofNat_rounds n).holds (representable_natCast h)

theorem one_le_of_ofNat_holds {n : Nat} (hn : 1 ≤ n) (h : (ofNat n).Holds a) : 1 ≤ a := by
  have hcast : ((1 : Nat) : ℚ) ≤ n := by exact_mod_cast hn
  obtain ⟨v, hv, hle⟩ := (ofNat_rounds 1).mono (ofNat_rounds n) hcast h
  obtain rfl := hv.unique (ofNat_holds_self (by decide))
  exact_mod_cast hle

theorem ofNat_holds_pos {n : Nat} (hn : 1 ≤ n) (h : (ofNat n).Holds a) : 0 < a :=
  one_pos.trans_le (one_le_of_ofNat_holds hn h)

theorem ofRatio_eq_infinity {n : Nat} (h : bound ≤ n) (negative : Bool) :
    ofRatio negative n 1 = infinity negative := by
  have hn : 0 < n := by exact_mod_cast bound_pos.trans_le h
  rcases @ofRatio_cases n 1 hn negative with hinfinite | ⟨m, e, hfinite, -⟩
  · exact hinfinite
  · have hreach := two_zpow_le_rounded (e := maxExponent + 53) hn Nat.one_pos (by decide)
      (by rwa [Nat.cast_one, div_one])
    have hbelow := (isFinite_ofRatio_iff hn Nat.one_pos negative).mp (by rw [hfinite]; rfl)
    exact absurd hbelow (not_lt.mpr hreach)

theorem two_zpow_le_decimal {m : Nat} {e : Int} (hm : 0 < m) (he : 0 ≤ e) :
    (2 : ℚ) ^ ((m.log2 : Int) + 3 * e) ≤ m * 10 ^ e := by
  have hlog := (two_zpow_log2_le hm).1
  have hbase : ((2 : ℚ) ^ (3 : Int)) ^ e ≤ 10 ^ e :=
    zpow_le_zpow_left₀ he (by positivity) (by norm_num)
  calc (2 : ℚ) ^ ((m.log2 : Int) + 3 * e) = 2 ^ (m.log2 : Int) * (2 ^ (3 : Int)) ^ e := by
        rw [zpow_add₀ two_ne_zero, zpow_mul]
    _ ≤ m * 10 ^ e := by gcongr

theorem decimal_lt_two_zpow {m : Nat} {e : Int} (hm : 0 < m) (he : e ≤ 0) :
    (m : ℚ) * 10 ^ e < 2 ^ ((m.log2 : Int) + 1 + 3 * e) := by
  have hlog := (two_zpow_log2_le hm).2
  have hbase : (10 : ℚ) ^ e ≤ (2 ^ (3 : Int)) ^ e := by
    obtain ⟨j, rfl⟩ := Int.exists_eq_neg_ofNat he
    rw [zpow_neg, zpow_neg]
    exact inv_anti₀ (by positivity) (zpow_le_zpow_left₀ (by omega) (by positivity) (by norm_num))
  calc (m : ℚ) * 10 ^ e ≤ m * (2 ^ (3 : Int)) ^ e := by gcongr
    _ < 2 ^ (m.log2 + 1 : Int) * (2 ^ (3 : Int)) ^ e := by gcongr
    _ = 2 ^ ((m.log2 : Int) + 1 + 3 * e) := by rw [zpow_add₀ two_ne_zero (_ + 1), zpow_mul]

-- A decimal number that is whole is rounded as such, however it is written, and the early
-- answers are those that rounding gives.
theorem ofDecimal_of_eq {m n : Nat} {e : Int} (h : (m : ℚ) * 10 ^ e = n) (negative : Bool) :
    ofDecimal negative m e = ofRatio negative n 1 := by
  unfold ofDecimal
  split_ifs with hzero hlarge hsmall
  · rw [hzero, Nat.cast_zero, zero_mul] at h
    obtain rfl : n = 0 := by exact_mod_cast h.symm
    rfl
  · refine (ofRatio_eq_infinity ?_ negative).symm
    calc bound ≤ 2 ^ ((m.log2 : Int) + 3 * e) := by
          refine zpow_le_zpow_right₀ one_le_two ?_
          rw [maxExponent]
          omega
      _ ≤ m * 10 ^ e := two_zpow_le_decimal (Nat.pos_of_ne_zero hzero) hlarge.1
      _ = n := h
  · have hm := Nat.pos_of_ne_zero hzero
    have hbelow : (n : ℚ) < 1 :=
      calc (n : ℚ) = m * 10 ^ e := h.symm
        _ < 2 ^ ((m.log2 : Int) + 1 + 3 * e) := decimal_lt_two_zpow hm (by omega)
        _ ≤ 1 := zpow_le_one_of_nonpos₀ one_le_two (by omega)
    have hpos : (0 : ℚ) < n := h ▸ (by positivity)
    have hone : (1 : ℚ) ≤ n := by exact_mod_cast hpos
    exact absurd hbelow (not_lt.mpr hone)
  · refine ofRatio_congr (Nat.pow_pos (by decide)) Nat.one_pos ?_ negative
    rw [Nat.cast_one, div_one, ← h, zpow_eq_div, mul_div_assoc', Nat.pow_eq]
    push_cast
    rfl

theorem ofDecimal_whole (n : Nat) : ofDecimal false n 0 = ofNat n :=
  ofDecimal_of_eq (by rw [zpow_zero, mul_one]) false

theorem ofDyadic_rounds (m : Nat) (e : Int) : (ofDyadic false m e).Rounds (m * 2 ^ e) :=
  ⟨m <<< e.toNat, 1 <<< (-e).toNat, shiftLeft_pos Nat.one_pos _, ofDyadic_ratio m e, rfl⟩

theorem mul_rounds (hx : x.Holds a) (hy : y.Holds b) : (x.mul y).Rounds (a * b) := by
  obtain ⟨m, e, rfl, rfl⟩ := hx
  obtain ⟨n, f, rfl, rfl⟩ := hy
  have hvalue : (m : ℚ) * 2 ^ e * (n * 2 ^ f) = (m * n : Nat) * 2 ^ (e + f) := by
    rw [zpow_add₀ two_ne_zero]
    push_cast
    ring
  rw [hvalue]
  exact ofDyadic_rounds (m * n) (e + f)

theorem scaled_false (m : Nat) (e unit : Int) :
    scaled false m e unit = (m <<< (e - unit).toNat : Nat) := rfl

theorem scaled_mul {m : Nat} {e unit : Int} (h : unit ≤ e) :
    ((m <<< (e - unit).toNat : Nat) : ℚ) * 2 ^ unit = m * 2 ^ e := by
  obtain ⟨j, hj⟩ := Int.eq_ofNat_of_zero_le (Int.sub_nonneg_of_le h)
  rw [hj, Int.toNat_natCast, Nat.shiftLeft_eq, show e = j + unit by omega,
    zpow_add₀ two_ne_zero, zpow_natCast]
  push_cast
  ring

theorem add_rounds (hx : x.Holds a) (hy : y.Holds b) : (x.add y).Rounds (a + b) := by
  obtain ⟨m, e, rfl, rfl⟩ := hx
  obtain ⟨n, f, rfl, rfl⟩ := hy
  set unit := min e f with hunit
  have hvalue : (m : ℚ) * 2 ^ e + n * 2 ^ f =
      (m <<< (e - unit).toNat + n <<< (f - unit).toNat : Nat) * 2 ^ unit := by
    rw [Nat.cast_add, add_mul, scaled_mul (by omega), scaled_mul (by omega)]
  rw [hvalue]
  generalize hsum : m <<< (e - unit).toNat + n <<< (f - unit).toNat = sum
  have hscaled : scaled false m e unit + scaled false n f unit = (sum : Int) := by
    rw [← hsum, scaled_false, scaled_false, Nat.cast_add]
  have hadd : (finite false m e).add (finite false n f) =
      if sum = 0 then zero false else ofDyadic false sum unit := by
    have hpositive : ¬(sum : Int) < 0 := Int.not_lt.mpr (Int.natCast_nonneg sum)
    simp only [add, ← hunit, hscaled, Int.natCast_eq_zero, Int.natAbs_natCast, Bool.and_self,
      hpositive, decide_false]
  rw [hadd]
  split_ifs with hzero
  · exact ⟨0, 1, Nat.one_pos, by simp [hzero], rfl⟩
  · exact ofDyadic_rounds sum unit

section Integers

variable {m n : Nat}

theorem mul_holds_natCast (hx : x.Holds m) (hy : y.Holds n) (h : m * n ≤ overfull) :
    (x.mul y).Holds (m * n : Nat) := by
  have hrounds := mul_rounds hx hy
  rw [← Nat.cast_mul] at hrounds
  exact hrounds.holds (representable_natCast h)

theorem add_holds_natCast (hx : x.Holds m) (hy : y.Holds n) (h : m + n ≤ overfull) :
    (x.add y).Holds (m + n : Nat) := by
  have hrounds := add_rounds hx hy
  rw [← Nat.cast_add] at hrounds
  exact hrounds.holds (representable_natCast h)

end Integers

theorem div_rounds (hx : x.Holds a) (hy : y.Holds b) (hb : 0 < b) : (x.div y).Rounds (a / b) := by
  obtain ⟨m, e, rfl, rfl⟩ := hx
  obtain ⟨n, f, rfl, rfl⟩ := hy
  have hn : n ≠ 0 := by
    rintro rfl
    simp at hb
  refine ⟨m <<< (e - f).toNat, n <<< (f - e).toNat, shiftLeft_pos (Nat.pos_of_ne_zero hn) _, ?_, ?_⟩
  · have hratio := shiftLeft_div_shiftLeft m n (f - e)
    rw [neg_sub] at hratio
    rw [hratio, zpow_sub₀ two_ne_zero]
    field_simp
  · simp [div, hn]

theorem twoPow_eq_infinity {e : Int} (h : 1023 < e) : twoPow e = infinity false := if_pos h

theorem twoPow_eq_zero {e : Int} (h : e < -1023) : twoPow e = zero false := by
  rw [twoPow, if_neg (by omega), if_pos h]

theorem lt_iff (hx : x.Holds a) (hy : y.Holds b) : x.lt y = true ↔ a < b := by
  obtain ⟨m, e, rfl, rfl⟩ := hx
  obtain ⟨n, f, rfl, rfl⟩ := hy
  have hunit : (0 : ℚ) < 2 ^ min e f := by positivity
  rw [← scaled_mul (Int.min_le_left e f), ← scaled_mul (Int.min_le_right e f),
    mul_lt_mul_iff_left₀ hunit, Nat.cast_lt]
  simp only [lt, scaled_false, decide_eq_true_eq, Int.ofNat_lt]

-- What is above zero is neither below it nor taken for it.
theorem Holds.positive (hx : x.Holds a) (hpos : 0 < a) :
    x.lt (zero false) = false ∧ x.isZero = false ∧ x.isNaN = false := by
  have hbelow : x.lt (zero false) = false := by
    rw [← Bool.not_eq_true, lt_iff hx zero_holds, not_lt]
    exact hpos.le
  obtain ⟨m, e, hfinite, rfl⟩ := hx
  have hm : m ≠ 0 := by
    rintro rfl
    simp at hpos
  refine ⟨hbelow, ?_, ?_⟩
  · simpa [hfinite, isZero] using hm
  · rw [hfinite]
    rfl

theorem Rounds.lt_of_le {z : Binary64} {c : ℚ} (hz : z.Rounds c) (hx : x.Holds a) (hy : y.Holds b)
    (hab : a ≤ b) (h : z.lt x = true) : z.lt y = true := by
  rcases hz.eq_infinity_or_holds with rfl | ⟨v, hv⟩
  · obtain ⟨m, e, rfl, -⟩ := hx
    contradiction
  · rw [lt_iff hv hy]
    exact ((lt_iff hv hx).mp h).trans_le hab

-- Rounding does not go down past a number that is held.
theorem Rounds.not_lt_of_le {z : Binary64} {c : ℚ} (hz : z.Rounds c) (hx : x.Holds a)
    (ha : Representable a) (hac : a ≤ c) : z.lt x = false := by
  rw [← Bool.not_eq_true]
  rcases hz.eq_infinity_or_holds with rfl | ⟨v, hv⟩
  · obtain ⟨m, e, rfl, -⟩ := hx
    exact Bool.false_ne_true
  · rw [lt_iff hv hx, not_lt]
    obtain ⟨m, e, -, rfl⟩ := hx
    obtain ⟨w, hw, hle⟩ := (ofDyadic_rounds m e).mono hz hac hv
    obtain rfl := hw.unique ((ofDyadic_rounds m e).holds ha)
    exact hle

theorem natCeil_div (m : Nat) {unit : Nat} (hunit : 0 < unit) :
    ⌈(m : ℚ) / unit⌉₊ = (m + unit - 1) / unit := by
  have hpos : (0 : ℚ) < unit := by exact_mod_cast hunit
  refine eq_of_forall_ge_iff fun c => ?_
  rw [Nat.ceil_le, div_le_iff₀ hpos, ← Nat.lt_succ_iff, Nat.div_lt_iff_lt_mul hunit, Nat.succ_mul]
  norm_cast
  omega

-- Numbers with a part behind the point are small enough that the integer above is one.
theorem ceil_holds (hx : x.Canonical) (h : x.Holds a) : x.ceil.Holds ⌈a⌉₊ := by
  obtain ⟨m, e, rfl, rfl⟩ := h
  by_cases he : 0 ≤ e
  · obtain ⟨j, rfl⟩ := Int.eq_ofNat_of_zero_le he
    have hinteger : (m : ℚ) * 2 ^ (j : Int) = (m * 2 ^ j : Nat) := by
      rw [zpow_natCast]
      push_cast
      rfl
    simp only [ceil, he, if_true]
    exact ⟨m, j, rfl, by rw [hinteger, Nat.ceil_natCast]⟩
  · have hunit : 0 < 1 <<< (-e).toNat := shiftLeft_pos Nat.one_pos _
    have hratio := ofDyadic_ratio m e
    rw [show e.toNat = 0 by omega, Nat.shiftLeft_zero] at hratio
    have hsmall : ⌈(m : ℚ) * 2 ^ e⌉₊ ≤ m := by
      rw [Nat.ceil_le]
      exact mul_le_of_le_one_right (Nat.cast_nonneg m) (zpow_le_one_of_nonpos₀ one_le_two (by omega))
    have hceil : (finite false m e).ceil = ofNat ⌈(m : ℚ) * 2 ^ e⌉₊ := by
      simp only [ceil, he, if_false, Bool.false_eq_true, ← hratio, natCeil_div m hunit]
      rfl
    rw [hceil]
    exact ofNat_holds_self (hsmall.trans hx.1.le)

end VmLauncher.Binary64
