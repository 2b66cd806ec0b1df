import VmLauncher.Proofs.Memory.Rounding
import VmLauncher.Proofs.Number.Decimals
import VmLauncher.Proofs.Options.Effects
-- Sizes written as a number of bytes: what becomes of them, and how far that is from what
-- was written.
namespace VmLauncher.Memory.SizeSpec

open Binary64 (nearestNat spacing)
open Number (Spells)

variable {spec : SizeSpec}

theorem factor_bytes_holds (pageSize : Nat) : (SizeUnit.factor pageSize .bytes).Holds 1 := by
  have hone : (Binary64.ofNat 1).Holds (1 : Nat) := Binary64.ofNat_holds_self (by decide)
  rwa [Nat.cast_one] at hone

-- A number of bytes is taken for the number next to it that a double can hold.
theorem measure_of_spells {n : Nat} {token digits : String} {m : Measure} (hn : 0 < n)
    (hdigits : Spells digits n) (h : spec.measure token digits = .ok m) :
    m.total = nearestNat n ∧ IsLeast {k | spec.multiple ∣ k ∧ m.total ≤ k} m.rounded ∧
      m.rounded < m.total + spec.multiple := by
  obtain ⟨amount, rest, unit, hsplit, hunit, -, -, hround⟩ := measure_eq_ok h
  rw [Number.split?_of_spells hdigits, Option.some.injEq, Prod.mk.injEq] at hsplit
  obtain ⟨rfl, rfl⟩ := hsplit
  obtain rfl : SizeUnit.bytes = unit := Option.some.inj hunit
  have hholds := Binary64.ofNat_holds hn (round?_eq_some_iff.mp hround).1
  have hproduct := Binary64.mul_rounds hholds (factor_bytes_holds spec.pageSize)
  rw [mul_one] at hproduct
  have hrepresentable := (Binary64.ofNat_rounds n).canonical.representable hholds
  obtain ⟨-, -, rfl⟩ :=
    (round?_eq_some_iff_of_holds hholds (hproduct.holds hrepresentable)).mp hround
  rw [Nat.ceil_natCast]
  exact ⟨rfl, spec.roundedUp_isLeast _, (spec.roundedUp_bounds _).2⟩

-- What is kept of a size is the least multiple from the nearest double on. It is below what
-- was written just where a multiple lies between the two, which takes a number that no
-- double holds, and it is never further below than half of the gap between two doubles.
theorem decimal_size_kept {n bytes : Nat} {token digits program : String} {scene : Host.Scene}
    (hn : 1 ≤ n) (hround : 1 ≤ spec.roundTo) (hdigits : Spells digits n)
    (hok : (spec.parse token digits program scene).1 = .ok bytes) :
    IsLeast {k | spec.roundTo ∣ k ∧ nearestNat n ≤ k} bytes ∧
      (bytes < n ↔ ∃ k, spec.roundTo ∣ k ∧ nearestNat n ≤ k ∧ k < n) ∧
      (spacing n ∣ n → n ≤ bytes) ∧ n ≤ bytes + spacing n / 2 ∧
      bytes < n + spacing n / 2 + spec.roundTo := by
  obtain ⟨m, hm, rfl⟩ := Options.measure_of_parse_ok (Prod.ext hok rfl)
  obtain ⟨htotal, hleast, hlt⟩ := measure_of_spells hn hdigits hm
  have hmultiple : spec.multiple = spec.roundTo := Nat.max_eq_left hround
  rw [hmultiple, htotal] at hleast hlt
  obtain ⟨hbelow, habove⟩ := Binary64.nearestNat_bounds n
  have hkept : nearestNat n ≤ m.rounded := hleast.1.2
  refine ⟨hleast, ⟨fun hlow => ⟨m.rounded, hleast.1.1, hkept, hlow⟩, ?_⟩, ?_, ?_, ?_⟩
  · rintro ⟨k, hdvd, hk, hkn⟩
    exact Nat.lt_of_le_of_lt (hleast.2 ⟨hdvd, hk⟩) hkn
  · intro hexact
    rwa [Binary64.nearestNat_eq hexact] at hkept
  · omega
  · omega

-- One byte above a power of two is taken for the power, which is whole pages already.
theorem decimal_size_kept_of_lowered :
    let spec : SizeSpec := ⟨"initial heap size", "ms", 4096, 4096⟩
    let digits := "9223372036854775809"
    let scene : Host.Scene := ⟨.unlimited, ⟨[], []⟩, []⟩
    ((1 ≤ 9223372036854775809 ∧ 1 ≤ spec.roundTo) ∧ Spells digits 9223372036854775809 ∧
      (spec.parse ("-Xms" ++ digits) digits "bootvm" scene).1 = .ok 9223372036854775808) ∧
      IsLeast {k | 4096 ∣ k ∧ nearestNat 9223372036854775809 ≤ k} 9223372036854775808 ∧
      ∃ k, 4096 ∣ k ∧ nearestNat 9223372036854775809 ≤ k ∧ k < 9223372036854775809 := by
  intro spec digits scene
  have hdigits : Spells digits 9223372036854775809 := Number.spells_toString 9223372036854775809
  have hok : (spec.parse ("-Xms" ++ digits) digits "bootvm" scene).1 =
      .ok 9223372036854775808 := by decide +kernel
  obtain ⟨hleast, hlow, -⟩ := decimal_size_kept (by decide) (by decide) hdigits hok
  exact ⟨⟨by decide, hdigits, hok⟩, hleast, hlow.mp (by decide)⟩

-- So a size can be lowered, even where there is nothing to round.
theorem decimal_size_not_always_covered :
    ¬ ∀ (spec : SizeSpec) (n bytes : Nat) (token program : String) (scene : Host.Scene),
      1 ≤ n → 1 ≤ spec.roundTo →
      (spec.parse token (toString n) program scene).1 = .ok bytes → n ≤ bytes := by
  intro hcovered
  have hlow : (9007199254740993 : Nat) ≤ 9007199254740992 :=
    hcovered ⟨"initial heap size", "ms", 1, 4096⟩ 9007199254740993 9007199254740992
      "-Xms9007199254740993" "bootvm" ⟨.unlimited, ⟨[], []⟩, []⟩ (by decide) (by decide)
      (by decide +kernel)
  exact absurd hlow (by decide)

end VmLauncher.Memory.SizeSpec
