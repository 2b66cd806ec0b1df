import VmLauncher.Proofs.Binary64.Operations
import VmLauncher.Proofs.Number.Grammar
import VmLauncher.Proofs.Number.Hexadecimals
-- Literals that stand for no number: only the exponent of a hexadecimal one can bring that about.
namespace VmLauncher

namespace Binary64

-- A number without a minus, be it a finite one or not.
def Unsigned (x : Binary64) : Prop := x = infinity false ∨ ∃ value, x.Holds value

variable {x y : Binary64} {a : ℚ}

theorem Rounds.unsigned (h : x.Rounds a) : x.Unsigned := h.eq_infinity_or_holds

theorem Unsigned.isNaN (h : x.Unsigned) : x.isNaN = false := by
  rcases h with rfl | ⟨_, m, e, rfl, -⟩ <;> rfl

theorem Unsigned.add (hx : x.Unsigned) (hy : y.Unsigned) : (x.add y).Unsigned := by
  rcases hx with rfl | ⟨a, hx⟩
  · rcases hy with rfl | ⟨b, n, f, rfl, -⟩ <;> exact .inl rfl
  · rcases hy with rfl | ⟨b, hy⟩
    · obtain ⟨m, e, rfl, -⟩ := hx
      exact .inl rfl
    · exact (add_rounds hx hy).unsigned

theorem Unsigned.mul (hx : x.Unsigned) (hy : y.Holds a) (hpos : 0 < a) : (x.mul y).Unsigned := by
  rcases hx with rfl | ⟨b, hx⟩
  · obtain ⟨n, f, rfl, rfl⟩ := hy
    have hn : n ≠ 0 := by
      rintro rfl
      simp at hpos
    exact .inl (by simp [Binary64.mul, hn])
  · exact (mul_rounds hx hy).unsigned

theorem ofRatio_ne_nan (negative : Bool) (num den : Nat) :
    (ofRatio negative num den).isNaN = false := by
  rcases Nat.eq_zero_or_pos num with rfl | hn
  · rfl
  · rcases @ofRatio_cases num den hn negative with heq | ⟨m, e, heq, -⟩ <;> rw [heq] <;> rfl

theorem ofDecimal_ne_nan (negative : Bool) (n : Nat) (e : Int) :
    (ofDecimal negative n e).isNaN = false := by
  unfold ofDecimal
  split_ifs
  · rfl
  · rfl
  · rfl
  · exact ofRatio_ne_nan _ _ _

@[simp] theorem isNaN_neg (x : Binary64) : x.neg.isNaN = x.isNaN := by cases x <;> rfl

theorem eq_nan_of_isNaN (h : x.isNaN = true) : x = nan := by
  cases x with
  | nan => rfl
  | infinity | finite => contradiction

-- Powers of two are held up to the last one that is below the bound.
theorem representable_two_zpow {e : Int} (hlow : minExponent ≤ e) (hhigh : e ≤ 1023) :
    Representable (2 ^ e) := by
  rcases le_or_gt e maxExponent with hsmall | hlarge
  · exact ⟨1, e, by decide, hlow, hsmall, by simp⟩
  · rw [maxExponent] at hlarge
    obtain ⟨j, hj⟩ := Int.eq_ofNat_of_zero_le (show 0 ≤ e - maxExponent by rw [maxExponent]; omega)
    have hjle : j ≤ 52 := by
      rw [maxExponent] at hj
      omega
    refine ⟨2 ^ j, maxExponent, ?_, by decide, le_rfl, ?_⟩
    · exact (Nat.pow_le_pow_right two_pos hjle).trans_lt (by decide)
    · rw [Nat.cast_pow, Nat.cast_ofNat, ← zpow_natCast, ← zpow_add₀ two_ne_zero]
      congr 1
      omega

theorem twoPow_holds {e : Int} (hlow : -1023 ≤ e) (hhigh : e ≤ 1023) :
    (twoPow e).Holds (2 ^ e) := by
  have hpower : twoPow e = ofDyadic false 1 e := by
    rw [twoPow, if_neg (by omega), if_neg (by omega)]
  have hrounds := ofDyadic_rounds 1 e
  rw [Nat.cast_one, one_mul] at hrounds
  rw [hpower]
  exact hrounds.holds (representable_two_zpow (by rw [minExponent]; omega) hhigh)

theorem Rounds.eq_infinity {j : Nat} (h : x.Rounds (2 ^ (j : Int))) (hj : 1024 ≤ j) :
    x = infinity false := by
  have hbound : bound ≤ (2 ^ j : Nat) := by
    rw [Nat.cast_pow, Nat.cast_ofNat, ← zpow_natCast]
    exact zpow_le_zpow_right₀ one_le_two (by rw [maxExponent]; omega)
  obtain ⟨num, den, hd, hvalue, rfl⟩ := h
  have hsame : (num : ℚ) / den = (2 ^ j : Nat) / (1 : Nat) := by
    rw [hvalue, Nat.cast_one, div_one, Nat.cast_pow, Nat.cast_ofNat, zpow_natCast]
  rw [ofRatio_congr hd Nat.one_pos hsame]
  exact ofRatio_eq_infinity hbound false

-- Of all powers of two that it is scaled by, only those that are none make no number of it.
theorem Unsigned.isNaN_mul_twoPow (hx : x.Unsigned) (e : Int) :
    (x.mul (twoPow e)).isNaN = true ↔
      x.isZero = true ∧ 1023 < e ∨ x = infinity false ∧ e < -1023 := by
  rcases lt_or_ge 1023 e with hover | hle
  · have hsmall : ¬e < -1023 := by omega
    rw [twoPow_eq_infinity hover]
    rcases hx with rfl | ⟨a, m, f, rfl, -⟩
    · simp [Binary64.mul, Binary64.isNaN, isZero, hsmall]
    · by_cases hm : m = 0 <;> simp [Binary64.mul, Binary64.isNaN, isZero, hm, hover]
  · have hnot : ¬1023 < e := not_lt.mpr hle
    rcases lt_or_ge e (-1023) with hunder | hge
    · rw [twoPow_eq_zero hunder]
      rcases hx with rfl | ⟨a, hx⟩
      · simp [Binary64.mul, Binary64.isNaN, zero, hunder]
      · have hrounds := (mul_rounds hx zero_holds).unsigned.isNaN
        obtain ⟨m, f, rfl, -⟩ := hx
        simp [hrounds, hnot]
    · have hheld := hx.mul (twoPow_holds hge hle) (by positivity)
      have hunder : ¬e < -1023 := not_lt.mpr hge
      simp [hheld.isNaN, hnot, hunder]

end Binary64

namespace Number.Literal

open Text (WritesDigit digitsValue)

-- What the digits of a hexadecimal literal are added up to.
def mantissa (l : Literal) : Binary64 :=
  addHexFraction (hexWhole l.whole) ((Binary64.ofNat 1).div (.ofNat 16)) l.fraction

-- The number without its sign.
def magnitude (l : Literal) : Binary64 :=
  match l.exponent with
  | none => l.mantissa
  | some e => l.mantissa.mul (.twoPow e.counted)

variable {l : Literal}

theorem value_of_hexadecimal (hbase : l.base = .hexadecimal) :
    l.value = if l.negative then l.magnitude.neg else l.magnitude := by
  rw [value, hbase]
  rfl

theorem sixteen_holds : (Binary64.ofNat 16).Holds (16 : Nat) :=
  Binary64.ofNat_holds_self (by decide)

theorem hexWhole_unsigned (ds : List Nat) : (hexWhole ds).Unsigned := by
  induction ds using List.reverseRecOn with
  | nil => exact .inr ⟨0, Binary64.zero_holds⟩
  | append_singleton ds d ih =>
      rw [hexWhole_append_singleton]
      exact (ih.mul sixteen_holds (by norm_num)).add (Binary64.ofNat_rounds d).unsigned

-- The weights of the digits behind the point get smaller, and may end at nothing.
theorem addHexFraction_unsigned {v scale : Binary64} {weight : ℚ} {ds : List Nat}
    (hv : v.Unsigned) (hscale : scale.Holds weight) (hweight : weight ≤ 1)
    (hds : ∀ d ∈ ds, d < 16) : (addHexFraction v scale ds).Unsigned := by
  induction ds generalizing v scale weight with
  | nil => exact hv
  | cons d ds ih =>
      obtain ⟨hd, hds⟩ := List.forall_mem_cons.mp hds
      have hdigit : (Binary64.ofNat d).Holds d :=
        Binary64.ofNat_holds_self (hd.le.trans (by decide))
      have hadded := hv.add (Binary64.mul_rounds hdigit hscale).unsigned
      have hnext := Binary64.div_rounds hscale sixteen_holds (by norm_num)
      have hone : weight / (16 : Nat) ≤ (1 : Nat) := by
        norm_num
        linarith
      obtain ⟨next, hnext, hle⟩ := hnext.mono (Binary64.ofNat_rounds 1) hone
        (Binary64.ofNat_holds_self (by decide))
      exact ih hadded hnext (by exact_mod_cast hle) hds

theorem mantissa_unsigned (h : ∀ d ∈ l.fraction, d < 16) : l.mantissa.Unsigned := by
  have hone := Binary64.ofNat_holds_self (n := 1) (by decide)
  have hscale := Binary64.div_rounds hone sixteen_holds (by norm_num)
  have hle : ((1 : Nat) : ℚ) / (16 : Nat) ≤ (1 : Nat) := by norm_num
  obtain ⟨weight, hweight, hle⟩ := hscale.mono (Binary64.ofNat_rounds 1) hle hone
  exact addHexFraction_unsigned (hexWhole_unsigned l.whole) hweight (by exact_mod_cast hle) h

theorem WrittenAs.digits_lt {text : List Char} (h : l.WrittenAs text) :
    ∀ d ∈ l.whole ++ l.fraction, d < l.base.radix := by
  obtain ⟨-, -, -, hmantissa, -⟩ := h
  cases hmantissa with
  | whole hrun => simpa using lt_of_writesDigit hrun
  | point hrun _ hafter =>
      exact List.forall_mem_append.mpr ⟨lt_of_writesDigit hrun, lt_of_writesDigit hafter⟩
  | fraction hafter => exact lt_of_writesDigit hafter

theorem WrittenAs.fraction_lt {text : List Char} (h : l.WrittenAs text) :
    ∀ d ∈ l.fraction, d < 16 := fun d hd =>
  (h.digits_lt d (List.mem_append_right _ hd)).trans_le l.base.radix_le

theorem two_zpow_mul_sixteen (e : Int) : (2 : ℚ) ^ e * (16 : Nat) = 2 ^ (e + 4) := by
  rw [zpow_add₀ two_ne_zero]
  norm_num

-- A digit with zeros behind it is held as long as there is room for it, and so for no longer
-- than two hundred and fifty-five of them.
theorem hexWhole_one_zeros {n : Nat} (hn : n ≤ 255) :
    (hexWhole (1 :: List.replicate n 0)).Holds (2 ^ ((4 * n : Nat) : Int)) := by
  induction n with
  | zero =>
      have hone : (hexWhole [1]).Holds (digitsValue 16 [1] : Nat) :=
        hexWhole_holds (by decide) (by decide)
      rwa [show digitsValue 16 [1] = 1 from rfl, Nat.cast_one, ← zpow_zero (2 : ℚ)] at hone
  | succ n ih =>
      have hproduct := Binary64.mul_rounds (ih (by omega)) sixteen_holds
      rw [two_zpow_mul_sixteen, show ((4 * n : Nat) : Int) + 4 = (4 * (n + 1) : Nat) by omega]
        at hproduct
      have hnumber : Binary64.Representable (2 ^ ((4 * (n + 1) : Nat) : Int)) :=
        Binary64.representable_two_zpow (by rw [Binary64.minExponent]; omega) (by omega)
      have hsum := Binary64.add_rounds (hproduct.holds hnumber) Binary64.zero_holds
      rw [add_zero] at hsum
      rw [List.replicate_succ', ← List.cons_append, hexWhole_append_singleton]
      exact hsum.holds hnumber

theorem hexWhole_one_zeros_eq_infinity :
    hexWhole (1 :: List.replicate 256 0) = .infinity false := by
  have hproduct := Binary64.mul_rounds (hexWhole_one_zeros le_rfl) sixteen_holds
  rw [two_zpow_mul_sixteen] at hproduct
  have hinfinite := Binary64.Rounds.eq_infinity (j := 1024) hproduct le_rfl
  rw [List.replicate_succ', ← List.cons_append, hexWhole_append_singleton, hinfinite]
  rfl

-- A mantissa that is nothing met an exponent that is too large to be held, or one that is too
-- large itself met an exponent that is too small.
def Indeterminate (l : Literal) : Prop :=
  l.base = .hexadecimal ∧ ∃ e ∈ l.exponent,
    l.mantissa.isZero = true ∧ 1023 < e.value ∨ l.mantissa = .infinity false ∧ e.value < -1023

theorem WrittenAs.isNaN_value {text : List Char} (h : l.WrittenAs text) :
    l.value.isNaN = true ↔ l.Indeterminate := by
  have hmantissa := mantissa_unsigned h.fraction_lt
  cases hbase : l.base with
  | decimal => simp [value, Indeterminate, hbase, Binary64.ofDecimal_ne_nan]
  | hexadecimal =>
      have hsign : l.value.isNaN = l.magnitude.isNaN := by
        rw [value_of_hexadecimal hbase]
        split_ifs
        · exact Binary64.isNaN_neg _
        · rfl
      rw [hsign, magnitude]
      cases hexponent : l.exponent with
      | none => simp [Indeterminate, hexponent, hmantissa.isNaN]
      | some e =>
          have hscaled := hmantissa.isNaN_mul_twoPow e.value
          simpa [Indeterminate, hbase, hexponent, twoPow_counted] using hscaled

end Number.Literal

end VmLauncher
