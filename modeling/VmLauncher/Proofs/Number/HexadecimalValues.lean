import VmLauncher.Proofs.Number.Canonical
import VmLauncher.Proofs.Number.Indeterminate
import VmLauncher.Proofs.Number.LongestMatch
-- Hexadecimal literals with a point and an exponent. As long as the digits fit into one
-- significand, neither adding them up nor scaling the sum rounds anything.
namespace VmLauncher

namespace Binary64

variable {x : Binary64} {a : ℚ}

-- The sign and the value of a number apart, for zero has a sign, too.
def HasMagnitude (x : Binary64) (negative : Bool) (magnitude : ℚ) : Prop :=
  ∃ (m : Nat) (e : Int), x = finite negative m e ∧ (m : ℚ) * 2 ^ e = magnitude

theorem Holds.hasMagnitude (h : x.Holds a) (negative : Bool) :
    (if negative then x.neg else x).HasMagnitude negative a := by
  obtain ⟨m, e, rfl, hvalue⟩ := h
  cases negative <;> exact ⟨m, e, rfl, hvalue⟩

-- Each place behind a hexadecimal point is worth four binary ones.
theorem div_sixteen_pow_mul (a : ℚ) (j : Nat) (e : Int) :
    a / 16 ^ j * 2 ^ e = a * 2 ^ (e - 4 * j) := by
  have hbase : (16 : ℚ) ^ j = 2 ^ (4 * j : Int) := by
    rw [zpow_mul, zpow_natCast]
    norm_num
  rw [hbase, zpow_sub₀ two_ne_zero]
  ring

theorem representable_div_sixteen_pow {n j : Nat} (hn : n < overfull) (hj : 4 * j ≤ 1074) :
    Representable (n / 16 ^ j) := by
  have hvalue := div_sixteen_pow_mul n j 0
  rw [zpow_zero, mul_one] at hvalue
  exact ⟨n, 0 - 4 * j, hn, by rw [minExponent]; omega, by rw [maxExponent]; omega, hvalue.symm⟩

end Binary64

namespace Number.Literal

open Text

variable {l : Literal}

-- What a hexadecimal literal says, without its sign.
def hexadecimalValue (l : Literal) : ℚ :=
  digitsValue 16 (l.whole ++ l.fraction) *
    2 ^ ((l.exponent.map Exponent.value).getD 0 - 4 * l.fraction.length : Int)

variable {v scale : Binary64} {before ds : List Nat} {d j : Nat}

theorem next_scale_holds (hscale : scale.Holds (1 / 16 ^ j)) (hplaces : 4 * (j + 1) ≤ 1074) :
    (scale.div (.ofNat 16)).Holds (1 / 16 ^ (j + 1)) := by
  have hrounds := Binary64.div_rounds hscale sixteen_holds (by norm_num)
  have hnumber := Binary64.representable_div_sixteen_pow (n := 1) (by decide) hplaces
  rw [Nat.cast_one] at hnumber
  rw [div_div, Nat.cast_ofNat, ← pow_succ] at hrounds
  exact hrounds.holds hnumber

-- The sum so far is what all digits up to here spell, over the weight of the last of them.
theorem add_digit_holds (hv : v.Holds (digitsValue 16 before / 16 ^ j))
    (hscale : scale.Holds (1 / 16 ^ (j + 1))) (hd : d < 16)
    (hfit : digitsValue 16 (before ++ [d]) < Binary64.overfull) (hplaces : 4 * (j + 1) ≤ 1074) :
    (v.add ((Binary64.ofNat d).mul scale)).Holds
      (digitsValue 16 (before ++ [d]) / 16 ^ (j + 1)) := by
  have hover : 16 ≤ Binary64.overfull := by decide
  have hproduct := Binary64.mul_rounds (Binary64.ofNat_holds_self (hd.le.trans hover)) hscale
  rw [mul_one_div] at hproduct
  have hweighed := hproduct.holds
    (Binary64.representable_div_sixteen_pow (hd.trans_le hover) hplaces)
  have hsum := Binary64.add_rounds hv hweighed
  have hvalue : (digitsValue 16 before : ℚ) / 16 ^ j + d / 16 ^ (j + 1) =
      digitsValue 16 (before ++ [d]) / 16 ^ (j + 1) := by
    rw [digitsValue_append_singleton, pow_succ]
    push_cast
    field_simp
  rw [hvalue] at hsum
  exact hsum.holds (Binary64.representable_div_sixteen_pow hfit hplaces)

-- No digit makes the number smaller, so that all of them fit is enough for each step.
theorem addHexFraction_holds (hv : v.Holds (digitsValue 16 before / 16 ^ j))
    (hscale : scale.Holds (1 / 16 ^ (j + 1))) (hlt : ∀ d ∈ ds, d < 16)
    (hfit : digitsValue 16 (before ++ ds) < Binary64.overfull)
    (hplaces : 4 * (j + ds.length + 1) ≤ 1074) :
    (addHexFraction v scale ds).Holds
      (digitsValue 16 (before ++ ds) / 16 ^ (j + ds.length)) := by
  induction ds generalizing v scale before j with
  | nil => rwa [List.append_nil]
  | cons d ds ih =>
      obtain ⟨hd, hlt⟩ := List.forall_mem_cons.mp hlt
      have hlength : j + (d :: ds).length = j + 1 + ds.length := by
        rw [List.length_cons]
        omega
      rw [List.append_cons] at hfit ⊢
      rw [hlength] at hplaces ⊢
      have hfront : digitsValue 16 (before ++ [d]) ≤ digitsValue 16 (before ++ [d] ++ ds) :=
        digitsValue_le_append (by decide) _ _
      have hsum := add_digit_holds hv hscale hd (hfront.trans_lt hfit) (by omega)
      have hnext := next_scale_holds hscale (by omega)
      exact ih hsum hnext hlt hfit hplaces

section Fitting

variable (hlt : ∀ d ∈ l.whole ++ l.fraction, d < 16)
  (hfit : digitsValue 16 (l.whole ++ l.fraction) < Binary64.overfull)
  (hplaces : 4 * (l.fraction.length + 1) ≤ 1074)

include hlt hfit hplaces

theorem mantissa_holds :
    l.mantissa.Holds (digitsValue 16 (l.whole ++ l.fraction) / 16 ^ l.fraction.length) := by
  obtain ⟨hwhole, hfraction⟩ := List.forall_mem_append.mp hlt
  have hfront : digitsValue 16 l.whole ≤ digitsValue 16 (l.whole ++ l.fraction) :=
    digitsValue_le_append (by decide) _ _
  have hsum := hexWhole_holds hwhole (hfront.trans hfit.le)
  have hone : (Binary64.ofNat 1).Holds (1 / 16 ^ 0) := by
    simpa using Binary64.ofNat_holds_self (n := 1) (by decide)
  have hscale := next_scale_holds hone (by decide)
  rw [← div_one ((digitsValue 16 l.whole : Nat) : ℚ), ← pow_zero 16] at hsum
  have hheld := addHexFraction_holds hsum hscale hfraction hfit (by omega)
  rwa [Nat.zero_add] at hheld

-- The exponent moves the places of the sum, and may not move them out of the range.
theorem magnitude_holds
    (hexponent : ∀ e ∈ l.exponent, |e.value| ≤ 1023 ∧
      Binary64.minExponent ≤ e.value - 4 * l.fraction.length ∧
      e.value - 4 * l.fraction.length ≤ Binary64.maxExponent) :
    l.magnitude.Holds l.hexadecimalValue := by
  have hmantissa := mantissa_holds hlt hfit hplaces
  rw [magnitude, hexadecimalValue, ← Binary64.div_sixteen_pow_mul]
  cases hexp : l.exponent with
  | none => simpa using hmantissa
  | some e =>
      obtain ⟨hsize, hlow, hhigh⟩ := hexponent e hexp
      obtain ⟨hmin, hmax⟩ := abs_le.mp hsize
      have hpower := Binary64.twoPow_holds hmin hmax
      rw [← twoPow_counted] at hpower
      refine (Binary64.mul_rounds hmantissa hpower).holds ?_
      rw [Binary64.div_sixteen_pow_mul]
      exact ⟨_, _, hfit, hlow, hhigh, rfl⟩

end Fitting

end Number.Literal

namespace Number

-- Thirteen digits take at most 52 of the 53 places, and these lie deep inside the range. What
-- follows the literal is any text with which it does not go on.
theorem split?_hexadecimal_exact {l : Literal} {text rest : String} (hl : l.WrittenAs text.toList)
    (hbase : l.base = .hexadecimal) (hdigits : l.whole.length + l.fraction.length ≤ 13)
    (hexponent : ∀ e ∈ l.exponent, |e.value| ≤ 900)
    (hrest : Literal.IsLongest (text.toList ++ rest.toList) text.toList) :
    ∃ amount, split? (text ++ rest) = some (amount, rest) ∧ amount.Canonical ∧
      amount.HasMagnitude l.negative l.hexadecimalValue := by
  have hscan : Literal.scan? (text.toList ++ rest.toList) = some (l, rest.toList) :=
    (Literal.scan?_eq_some_iff _ _ _).mpr ⟨text.toList, rfl, hrest, hl⟩
  have hsplit : split? (text ++ rest) = some (l.value, rest) := by
    simp only [split?, String.toList_append, hscan, Option.map_some, String.ofList_toList]
  have hlt : ∀ d ∈ l.whole ++ l.fraction, d < 16 := fun d hd =>
    (hl.digits_lt d hd).trans_le l.base.radix_le
  have hfit : Text.digitsValue 16 (l.whole ++ l.fraction) < Binary64.overfull :=
    calc Text.digitsValue 16 (l.whole ++ l.fraction) < 16 ^ (l.whole ++ l.fraction).length :=
          Text.digitsValue_lt_pow_length (by decide) hlt
      _ ≤ 16 ^ 13 := Nat.pow_le_pow_right (by decide) (by rwa [List.length_append])
      _ < Binary64.overfull := by decide
  have hmagnitude : l.magnitude.Holds l.hexadecimalValue := by
    refine Literal.magnitude_holds hlt hfit (by omega) fun e he => ?_
    obtain ⟨hlow, hhigh⟩ := abs_le.mp (hexponent e he)
    rw [abs_le, Binary64.minExponent, Binary64.maxExponent]
    omega
  refine ⟨l.value, hsplit, l.value_canonical, ?_⟩
  rw [Literal.value_of_hexadecimal hbase]
  exact hmagnitude.hasMagnitude l.negative

-- Thirteen digits, an exponent at its bound with zeros in front of it, and a unit behind.
theorem split?_hexadecimal_exact_of_thirteen_digits :
    let l : Literal := ⟨true, .hexadecimal, [15, 15, 15, 15, 15, 15, 15], [15, 15, 15, 15, 15, 15],
      some ⟨true, [0, 0, 0, 9, 0, 0]⟩⟩
    let text := "-0XFFFFFFF.ffffffP-000900"
    (l.WrittenAs text.toList ∧ l.base = .hexadecimal ∧
      l.whole.length + l.fraction.length ≤ 13 ∧ (∀ e ∈ l.exponent, |e.value| ≤ 900) ∧
      Literal.IsLongest (text.toList ++ "pages".toList) text.toList) ∧
      ∃ amount, split? (text ++ "pages") = some (amount, "pages") ∧ amount.Canonical ∧
        amount.HasMagnitude true ((2 ^ 52 - 1) * 2 ^ (-924 : Int)) := by
  intro l text
  have hscan : Literal.scan? (text.toList ++ "pages".toList) = some (l, "pages".toList) := by
    decide
  obtain ⟨hlongest, hl⟩ := Literal.isLongest_of_scan? hscan
  have hexponent : ∀ e ∈ l.exponent, |e.value| ≤ 900 := by
    rintro e he
    obtain rfl := Option.some.inj he
    decide
  obtain ⟨amount, hsplit, hcanonical, hvalue⟩ :=
    split?_hexadecimal_exact hl rfl (by decide) hexponent hlongest
  have hdigits : Text.digitsValue 16 (l.whole ++ l.fraction) = 2 ^ 52 - 1 := by decide
  refine ⟨⟨hl, rfl, by decide, hexponent, hlongest⟩, amount, hsplit, hcanonical, ?_⟩
  rw [Literal.hexadecimalValue, hdigits] at hvalue
  exact_mod_cast hvalue

end Number

end VmLauncher
