import VmLauncher.Proofs.Binary64.Operations
import VmLauncher.Proofs.Memory.Sizes
import Mathlib.Order.Bounds.Basic
-- Sizes by the values behind them: which multiple is kept, and when there is one.
namespace VmLauncher.Memory

open Binary64 (Holds Representable Rounds)

theorem wordLimit_holds : (Binary64.ofNat wordLimit).Holds wordLimit := by
  have hpower : wordLimit = 2 ^ 64 := rfl
  rw [hpower]
  exact (Binary64.ofNat_rounds _).holds (Binary64.representable_two_pow (by decide))

theorem wordLimit_lt_two_zpow : (wordLimit : ℚ) < 2 ^ Binary64.maxExponent :=
  calc (wordLimit : ℚ) = 2 ^ (64 : Int) := by
        rw [show wordLimit = 2 ^ 64 from rfl]
        norm_num
    _ < 2 ^ Binary64.maxExponent := zpow_lt_zpow_right₀ one_lt_two (by decide)

theorem SizeUnit.factor_rounds (pageSize : Nat) (unit : SizeUnit) :
    (unit.factor pageSize).Rounds (unit.byteCount pageSize) :=
  Binary64.ofNat_rounds (unit.byteCount pageSize)

namespace SizeSpec

variable {spec : SizeSpec}

theorem roundedUp_isLeast (spec : SizeSpec) (total : Nat) :
    IsLeast {k | spec.multiple ∣ k ∧ total ≤ k} (spec.roundedUp total) := by
  obtain ⟨hle, hlt⟩ := spec.roundedUp_bounds total
  refine ⟨⟨spec.dvd_roundedUp total, hle⟩, ?_⟩
  rintro k ⟨hk, htotal⟩
  by_contra hless
  have hgap : spec.multiple ≤ spec.roundedUp total - k :=
    Nat.le_of_dvd (by omega) (Nat.dvd_sub (spec.dvd_roundedUp total) hk)
  omega

-- A multiple is not below a value exactly if it is not below the next whole number.
theorem roundedUp_natCeil_isLeast (spec : SizeSpec) (value : ℚ) :
    IsLeast {k : Nat | spec.multiple ∣ k ∧ value ≤ k} (spec.roundedUp ⌈value⌉₊) := by
  have hleast := spec.roundedUp_isLeast ⌈value⌉₊
  simpa only [Nat.ceil_le] using hleast

theorem roundedUp_mono {total more : Nat} (h : total ≤ more) :
    spec.roundedUp total ≤ spec.roundedUp more :=
  (spec.roundedUp_isLeast total).2
    ⟨spec.dvd_roundedUp more, h.trans (spec.roundedUp_bounds more).1⟩

theorem roundedUp_eq_self_iff (total : Nat) :
    spec.roundedUp total = total ↔ spec.multiple ∣ total := by
  constructor
  · intro h
    rw [← h]
    exact spec.dvd_roundedUp total
  · intro h
    exact le_antisymm ((spec.roundedUp_isLeast total).2 ⟨h, le_rfl⟩) (spec.roundedUp_bounds total).1

variable {amount : Binary64} {unit : SizeUnit} {product : ℚ}

theorem bytes_holds (hproduct : (amount.mul (unit.factor spec.pageSize)).Holds product) :
    (spec.bytes amount unit).Holds ⌈product⌉₊ :=
  Binary64.ceil_holds (Binary64.mul_canonical _ _) hproduct

-- What is not past the limit is refused only for the multiple that it would take.
theorem round?_eq_some_iff_of_holds {x : ℚ} (hx : amount.Holds x)
    (hproduct : (amount.mul (unit.factor spec.pageSize)).Holds product) {m : Measure} :
    spec.round? amount unit = some m ↔
      (spec.limit unit).lt amount = false ∧ spec.roundedUp ⌈product⌉₊ < wordLimit ∧
        m = ⟨⌈product⌉₊, spec.roundedUp ⌈product⌉₊⟩ := by
  have hbytes := bytes_holds hproduct
  have hword := Binary64.lt_iff hbytes wordLimit_holds
  rw [Nat.cast_lt] at hword
  have hle := (spec.roundedUp_bounds ⌈product⌉₊).1
  rw [round?_eq_some_iff, hword, Binary64.toNat_of_holds hbytes]
  constructor
  · rintro ⟨-, hlimit, -, hrounded, hm⟩
    exact ⟨hlimit, hrounded, hm⟩
  · rintro ⟨hlimit, hrounded, hm⟩
    exact ⟨hx.isFinite, hlimit, hle.trans_lt hrounded, hrounded, hm⟩

section Signs

variable {token subtoken rest : String} (hsplit : Number.split? subtoken = some (amount, rest))
  (hunit : SizeUnit.ofText? rest = some unit)

include hsplit hunit

theorem measure_of_negative (hnegative : amount.lt (.zero false) = true) :
    spec.measure token subtoken = .error (.negative spec.name) := by
  simp [measure, hsplit, hunit, hnegative]

theorem measure_of_zero (hnegative : amount.lt (.zero false) = false)
    (hzero : amount.isZero = true) : spec.measure token subtoken = .error (.zero spec.name) := by
  simp [measure, hsplit, hunit, hnegative, hzero]

-- A literal that stands for more than nothing can fail only by its range.
theorem measure_of_positive
    (hpositive : amount.lt (.zero false) = false ∧ amount.isZero = false ∧ amount.isNaN = false) :
    spec.measure token subtoken =
      match spec.round? amount unit with
      | none => .error (.outOfRange subtoken)
      | some m => .ok m := by
  obtain ⟨hnegative, hzero, hnan⟩ := hpositive
  cases hround : spec.round? amount unit with
  | none => simp [measure, hsplit, hunit, hnegative, hzero, hnan, hround]
  | some m => simp [measure, hsplit, hunit, hnegative, hzero, hnan, hround]

theorem measure_of_holds {x : ℚ} (hx : amount.Holds x) (hpos : 0 < x) :
    spec.measure token subtoken =
      match spec.round? amount unit with
      | none => .error (.outOfRange subtoken)
      | some m => .ok m :=
  measure_of_positive hsplit hunit (hx.positive hpos)

end Signs

theorem headroom_holds (spec : SizeSpec) :
    ∃ headroom, (Binary64.ofNat (wordLimit - 1 - spec.multiple)).Holds headroom ∧
      headroom ≤ wordLimit := by
  have hle : ((wordLimit - 1 - spec.multiple : Nat) : ℚ) ≤ wordLimit := by
    exact_mod_cast (by omega : wordLimit - 1 - spec.multiple ≤ wordLimit)
  exact (Binary64.ofNat_rounds _).mono (Binary64.ofNat_rounds wordLimit) hle wordLimit_holds

-- However the limit is rounded, it lets pass what fits into the headroom.
theorem limit_covers {x f headroom : ℚ} (hx : amount.Holds x) (hnumber : Representable x)
    (hf : (unit.factor spec.pageSize).Holds f) (hpos : 0 < f)
    (hheadroom : (Binary64.ofNat (wordLimit - 1 - spec.multiple)).Holds headroom)
    (hfits : x * f ≤ headroom) : (spec.limit unit).lt amount = false :=
  (Binary64.div_rounds hheadroom hf hpos).not_lt_of_le hx hnumber ((le_div_iff₀ hpos).mpr hfits)

section Order

variable {other : Binary64} {x y : ℚ}

-- Without a finite number of bytes to a unit there is no size in it.
theorem factor_holds_of_lt {pageSize : Nat} {bound : Binary64} (hy : other.Holds y)
    (h : (other.mul (unit.factor pageSize)).ceil.lt bound = true) :
    ∃ f, (unit.factor pageSize).Holds f := by
  rcases (unit.factor_rounds pageSize).eq_infinity_or_holds with hinfinite | hfinite
  · obtain ⟨n, e, rfl, -⟩ := hy
    rw [hinfinite, Binary64.mul] at h
    split_ifs at h <;> cases bound <;> simp [Binary64.ceil, Binary64.lt] at h
  · exact hfinite

theorem product_holds_of_lt {bound factor : Binary64} {f : ℚ} (hy : other.Holds y)
    (hf : factor.Holds f) (h : (other.mul factor).ceil.lt bound = true) :
    ∃ product, (other.mul factor).Holds product := by
  rcases (Binary64.mul_rounds hy hf).eq_infinity_or_holds with hinfinite | hfinite
  · rw [hinfinite] at h
    cases bound <;> simp [Binary64.ceil, Binary64.lt] at h
  · exact hfinite

theorem factor_pos {pageSize : Nat} (hp : 1 ≤ pageSize) {f : ℚ}
    (hf : (unit.factor pageSize).Holds f) : 0 < f :=
  Binary64.ofNat_holds_pos (unit.one_le_byteCount hp) hf

-- Less of a unit is accepted wherever more of it is, and does not take more.
theorem round?_mono (hp : 1 ≤ spec.pageSize) (hx : amount.Holds x) (hy : other.Holds y)
    (hxy : x ≤ y) {most : Measure} (h : spec.round? other unit = some most) :
    ∃ m, spec.round? amount unit = some m ∧ m.rounded ≤ most.rounded := by
  obtain ⟨-, hlimit, hword, -⟩ := round?_eq_some_iff.mp h
  obtain ⟨f, hf⟩ := factor_holds_of_lt hy hword
  obtain ⟨more, hmore⟩ := product_holds_of_lt hy hf hword
  have hpos := factor_pos hp hf
  obtain ⟨less, hless, hle⟩ := (Binary64.mul_rounds hx hf).mono (Binary64.mul_rounds hy hf)
    (by gcongr) hmore
  have hceil : ⌈less⌉₊ ≤ ⌈more⌉₊ := Nat.ceil_le_ceil hle
  have hrounded : spec.roundedUp ⌈less⌉₊ ≤ spec.roundedUp ⌈more⌉₊ := roundedUp_mono hceil
  obtain ⟨headroom, hheadroom, -⟩ := spec.headroom_holds
  have hlower : (spec.limit unit).lt amount = false := by
    have hrounds := Binary64.div_rounds hheadroom hf hpos
    by_contra hlt
    rw [Bool.not_eq_false] at hlt
    exact absurd (hrounds.lt_of_le hx hy hxy hlt) (by rw [SizeSpec.limit] at hlimit; simp [hlimit])
  obtain ⟨-, hfits, rfl⟩ := (round?_eq_some_iff_of_holds hy hmore).mp h
  exact ⟨_, (round?_eq_some_iff_of_holds hx hless).mpr ⟨hlower, hrounded.trans_lt hfits, rfl⟩,
    hrounded⟩

end Order

end SizeSpec

end VmLauncher.Memory
