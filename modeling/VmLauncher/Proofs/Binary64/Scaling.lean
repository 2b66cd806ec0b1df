import VmLauncher.Proofs.Binary64.Operations
-- Whole numbers and their multiples by a power of two are rounded alike.
namespace VmLauncher.Binary64

variable {n : Nat}

theorem quantum_mul_two_pow (hn : 0 < n) (k : Nat) : quantum (n * 2 ^ k) 1 = quantum n 1 + k := by
  have hquantum := quantum_one hn
  have hmin := minExponent_le_quantum n 1
  obtain ⟨hlt, hle⟩ := quantum_spec hn Nat.one_pos
  have hfull := hle.resolve_left (by rw [hquantum, minExponent]; omega)
  have hscale : ((n * 2 ^ k : Nat) : ℚ) / (1 : Nat) = n / (1 : Nat) * 2 ^ (k : Int) := by
    rw [zpow_natCast]
    push_cast
    ring
  have hshift (e : Int) : (2 : ℚ) ^ (quantum n 1 + k + e) = 2 ^ (quantum n 1 + e) * 2 ^ (k : Int) := by
    rw [← zpow_add₀ two_ne_zero]
    congr 1
    ring
  apply quantum_unique (Nat.mul_pos hn (Nat.two_pow_pos k)) Nat.one_pos
  · omega
  · rw [hscale, hshift]
    gcongr
  · rw [hscale, hshift]
    right
    gcongr

theorem nearest_mul_two_pow (n k : Nat) : nearest (n * 2 ^ k) 1 = nearest n 1 * 2 ^ k := by
  rcases Nat.eq_zero_or_pos n with rfl | hn
  · rw [Nat.zero_mul, nearest_zero, zero_mul]
  have hquantum := quantum_mul_two_pow hn k
  have hrounded : rounded (n * 2 ^ k) 1 = rounded n 1 := by
    refine rounded_congr Nat.one_pos Nat.one_pos ?_
    rw [hquantum, zpow_add₀ two_ne_zero, zpow_natCast]
    push_cast
    field_simp
  rw [nearest, nearest, hrounded, hquantum, zpow_add₀ two_ne_zero, zpow_natCast, mul_assoc]

theorem ofNat_holds_iff (n : Nat) (value : ℚ) :
    (ofNat n).Holds value ↔ nearest n 1 = value ∧ value < bound :=
  ofRatio_holds_iff Nat.one_pos value

-- As long as the multiple is in range, what stands for it is the same multiple of what
-- stands for the number.
theorem ofNat_mul_two_pow_holds {k : Nat} {value : ℚ} (h : (ofNat (n * 2 ^ k)).Holds value) :
    ∃ x, (ofNat n).Holds x ∧ value = x * 2 ^ k := by
  obtain ⟨hvalue, hbound⟩ := (ofNat_holds_iff _ _).mp h
  rw [nearest_mul_two_pow] at hvalue
  refine ⟨nearest n 1, (ofNat_holds_iff _ _).mpr ⟨rfl, ?_⟩, hvalue.symm⟩
  have hone : (1 : ℚ) ≤ 2 ^ k := one_le_pow₀ one_le_two
  calc nearest n 1 ≤ nearest n 1 * 2 ^ k := le_mul_of_one_le_right (nearest_nonneg n 1) hone
    _ = value := hvalue
    _ < bound := hbound

-- Beyond the range, it is that multiple which leaves it.
theorem bound_le_of_infinity {k : Nat} {x : ℚ} (h : ofNat (n * 2 ^ k) = infinity false)
    (hx : (ofNat n).Holds x) : bound ≤ x * 2 ^ k := by
  obtain ⟨rfl, -⟩ := (ofNat_holds_iff _ _).mp hx
  by_contra hlt
  rw [not_le, ← nearest_mul_two_pow] at hlt
  have hholds := (ofNat_holds_iff _ _).mpr ⟨rfl, hlt⟩
  rw [h] at hholds
  exact absurd hholds.isFinite Bool.false_ne_true

-- A number below zero is told from zero, also beyond the range.
theorem ofRatio_true_lt_zero (hn : 0 < n) : (ofRatio true n 1).lt (zero false) = true := by
  rcases @ofRatio_cases n 1 hn true with hinfinite | ⟨m, e, hfinite, hvalue⟩
  · rw [hinfinite]
    rfl
  · have hone : (2 : ℚ) ^ (0 : Int) ≤ n / (1 : Nat) := by
      rw [zpow_zero, Nat.cast_one, div_one]
      exact_mod_cast hn
    have hreach := two_zpow_le_rounded hn Nat.one_pos (by decide) hone
    rw [← hvalue] at hreach
    rw [hfinite]
    exact finite_true_lt_zero (AtLeast.of_finite hreach) e

theorem ofNat_positive (hn : 0 < n) :
    (ofNat n).lt (zero false) = false ∧ (ofNat n).isZero = false ∧ (ofNat n).isNaN = false := by
  rcases (ofNat_rounds n).eq_infinity_or_holds with hinfinite | ⟨x, hx⟩
  · rw [hinfinite]
    decide
  · exact hx.positive (ofNat_holds_pos hn hx)

end VmLauncher.Binary64
