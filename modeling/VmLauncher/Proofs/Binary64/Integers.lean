import VmLauncher.Proofs.Binary64.Arithmetic
-- Numbers that are integers: what becomes of them, and which integer stands for another.
namespace VmLauncher.Binary64

-- The value of a number that is positive or zero.
def Holds (x : Binary64) (value : ℚ) : Prop :=
  ∃ (m : Nat) (e : Int), x = finite false m e ∧ (m : ℚ) * 2 ^ e = value

theorem quantum_unique {num den : Nat} {e : Int} (hn : 0 < num) (hd : 0 < den)
    (he : minExponent ≤ e) (hlt : (num : ℚ) / den < 2 ^ (e + 53))
    (hle : e = minExponent ∨ (2 : ℚ) ^ (e + 52) ≤ num / den) : quantum num den = e := by
  obtain ⟨hlt', hle'⟩ := quantum_spec hn hd
  have hmin := minExponent_le_quantum num den
  have hbetween {a b : Int} (ha : (2 : ℚ) ^ (a + 52) ≤ num / den)
      (hb : (num : ℚ) / den < 2 ^ (b + 53)) : a ≤ b := by
    have h := (zpow_lt_zpow_iff_right₀ one_lt_two).mp (ha.trans_lt hb)
    omega
  apply le_antisymm
  · rcases hle' with heq | hfull
    · omega
    · exact hbetween hfull hlt
  · rcases hle with heq | hfull
    · omega
    · exact hbetween hfull hlt'

theorem shiftLeft_of_holds {m k : Nat} {e : Int} (h : (m : ℚ) * 2 ^ e = k) :
    m <<< e.toNat = k * 1 <<< (-e).toNat := by
  have hunit := shiftLeft_pos Nat.one_pos (-e).toNat
  rw [← ofDyadic_ratio, div_eq_iff (by exact_mod_cast hunit.ne')] at h
  exact_mod_cast h

theorem toNat_of_holds {x : Binary64} {k : Nat} (h : x.Holds k) : x.toNat = k := by
  obtain ⟨m, e, rfl, hvalue⟩ := h
  rw [toNat, shiftLeft_of_holds hvalue, Nat.shiftRight_eq_div_pow, Nat.one_shiftLeft]
  exact Nat.mul_div_cancel k (by positivity)

-- The bytes between two neighbours among the numbers near an integer.
def spacing (n : Nat) : Nat := 2 ^ (n.log2 - 52)

-- The integer that stands for another one, unless that is out of range.
def nearestNat (n : Nat) : Nat := roundHalfEven n (spacing n) * spacing n

theorem spacing_pos (n : Nat) : 0 < spacing n := Nat.two_pow_pos _

theorem quantum_one {n : Nat} (hn : 0 < n) : quantum n 1 = (n.log2 : Int) - 52 := by
  obtain ⟨hle, hlt⟩ := two_zpow_log2_le hn
  apply quantum_unique hn Nat.one_pos
  · have hmin : minExponent = -1074 := rfl
    omega
  · rw [Nat.cast_one, div_one, show (n.log2 : Int) - 52 + 53 = n.log2 + 1 by ring]
    exact hlt
  · rw [Nat.cast_one, div_one, show (n.log2 : Int) - 52 + 52 = n.log2 by ring]
    exact .inr hle

theorem roundHalfEven_mul (k : Nat) {den : Nat} (hd : 0 < den) :
    roundHalfEven (k * den) den = k := by
  apply le_antisymm
  · exact roundHalfEven_le hd le_rfl
  · exact le_roundHalfEven hd le_rfl

theorem rounded_one {n : Nat} (hn : 0 < n) :
    (rounded n 1 : ℚ) * 2 ^ quantum n 1 = nearestNat n := by
  have hquantum := quantum_one hn
  rw [rounded, nearestNat, spacing]
  rcases Nat.le_total 52 n.log2 with hlong | hshort
  · obtain ⟨j, hj⟩ := Nat.exists_eq_add_of_le hlong
    have hq : quantum n 1 = j := by omega
    rw [hq, show (-(j : Int)).toNat = 0 by omega, Int.toNat_natCast, Nat.shiftLeft_zero,
      Nat.one_shiftLeft, show n.log2 - 52 = j by omega, zpow_natCast]
    push_cast
    rfl
  · obtain ⟨j, hj⟩ := Nat.exists_eq_add_of_le hshort
    have hq : quantum n 1 = -j := by omega
    have hone (k : Nat) : roundHalfEven k 1 = k := by simpa using roundHalfEven_mul k Nat.one_pos
    rw [hq, neg_neg, Int.toNat_natCast, show (-(j : Int)).toNat = 0 by omega, Nat.shiftLeft_zero,
      show n.log2 - 52 = 0 by omega, pow_zero, mul_one, hone, hone, Nat.shiftLeft_eq, zpow_neg,
      zpow_natCast]
    push_cast
    field_simp

theorem ofNat_holds {n : Nat} (hn : 0 < n) (hfinite : (ofNat n).isFinite = true) :
    (ofNat n).Holds (nearestNat n) := by
  rw [← rounded_one hn]
  exact ofRatio_of_isFinite hn hfinite

-- Where an integer is a number, it stands for itself.
theorem nearestNat_eq {n : Nat} (h : spacing n ∣ n) : nearestNat n = n := by
  have hround := roundHalfEven_mul (n / spacing n) (spacing_pos n)
  rw [Nat.div_mul_cancel h] at hround
  rw [nearestNat, hround, Nat.div_mul_cancel h]

theorem le_roundHalfEven_mul_add (num : Nat) {den : Nat} (hd : 0 < den) :
    num ≤ roundHalfEven num den * den + den / 2 := by
  have hdiv := Nat.div_add_mod' num den
  have hmod := Nat.mod_lt num hd
  unfold roundHalfEven
  dsimp only
  split_ifs with hbelow habove
  · omega
  · rw [Nat.add_mul, Nat.one_mul]
    omega
  · rw [Nat.add_mul]
    omega

theorem roundHalfEven_mul_le (num den : Nat) :
    roundHalfEven num den * den ≤ num + den / 2 := by
  have hdiv := Nat.div_add_mod' num den
  unfold roundHalfEven
  dsimp only
  split_ifs with hbelow habove
  · omega
  · rw [Nat.add_mul, Nat.one_mul]
    omega
  · have hodd : num / den % 2 * den ≤ 1 * den := Nat.mul_le_mul_right den (by omega)
    rw [Nat.add_mul]
    omega

-- It is at most half the way to a neighbour off.
theorem nearestNat_bounds (n : Nat) :
    n ≤ nearestNat n + spacing n / 2 ∧ nearestNat n ≤ n + spacing n / 2 :=
  ⟨le_roundHalfEven_mul_add n (spacing_pos n), roundHalfEven_mul_le n (spacing n)⟩

end VmLauncher.Binary64
