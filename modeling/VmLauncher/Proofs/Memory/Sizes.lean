import VmLauncher.Memory.Size
import VmLauncher.Proofs.Number.Canonical
-- A size that is accepted is a positive multiple of what sizes are rounded up to.
namespace VmLauncher.Memory

open Number (split?)

theorem SizeUnit.one_le_byteCount {pageSize : Nat} (hp : 1 ≤ pageSize) (unit : SizeUnit) :
    1 ≤ unit.byteCount pageSize := by
  cases unit <;> simp [byteCount, hp]

namespace SizeSpec

-- The bytes that so many units stand for, before they are counted as a natural number.
def bytes (spec : SizeSpec) (amount : Binary64) (unit : SizeUnit) : Binary64 :=
  (amount.mul (unit.factor spec.pageSize)).ceil

theorem multiple_pos (spec : SizeSpec) : 0 < spec.multiple :=
  Nat.lt_of_lt_of_le Nat.one_pos (Nat.le_max_right _ _)

theorem dvd_add_sub_mod (n : Nat) {k : Nat} (hk : 0 < k) : k ∣ n + (k - n % k) := by
  have hlt := Nat.mod_lt n hk
  have hdiv := Nat.div_add_mod n k
  refine ⟨n / k + 1, ?_⟩
  rw [Nat.mul_add, Nat.mul_one]
  omega

-- The first multiple from a number of bytes on.
def roundedUp (spec : SizeSpec) (total : Nat) : Nat :=
  if total % spec.multiple = 0 then total else total + (spec.multiple - total % spec.multiple)

theorem dvd_roundedUp (spec : SizeSpec) (total : Nat) : spec.multiple ∣ spec.roundedUp total := by
  unfold roundedUp
  split_ifs with hmod
  · exact Nat.dvd_of_mod_eq_zero hmod
  · exact dvd_add_sub_mod total spec.multiple_pos

theorem roundedUp_bounds (spec : SizeSpec) (total : Nat) :
    total ≤ spec.roundedUp total ∧ spec.roundedUp total < total + spec.multiple := by
  have hpos := spec.multiple_pos
  unfold roundedUp
  split_ifs <;> omega

-- The checks of the range, and what is kept if all of them pass.
theorem round?_eq_some_iff {spec : SizeSpec} {amount : Binary64} {unit : SizeUnit} {m : Measure} :
    spec.round? amount unit = some m ↔
      amount.isFinite = true ∧ (spec.limit unit).lt amount = false ∧
        (spec.bytes amount unit).lt (.ofNat wordLimit) = true ∧
        spec.roundedUp (spec.bytes amount unit).toNat < wordLimit ∧
        m = ⟨(spec.bytes amount unit).toNat, spec.roundedUp (spec.bytes amount unit).toNat⟩ := by
  have hround : spec.round? amount unit =
      if !amount.isFinite || (spec.limit unit).lt amount then none
      else if !(spec.bytes amount unit).lt (.ofNat wordLimit) then none
      else if spec.roundedUp (spec.bytes amount unit).toNat < wordLimit then
        some ⟨(spec.bytes amount unit).toNat, spec.roundedUp (spec.bytes amount unit).toNat⟩
      else none := rfl
  rw [hround]
  constructor
  · intro h
    split_ifs at h with hrange hword hrounded
    simp only [Bool.or_eq_true, Bool.not_eq_true', not_or, Bool.not_eq_false,
      Bool.not_eq_true] at hrange hword
    exact ⟨hrange.1, hrange.2, hword, hrounded, (Option.some.inj h).symm⟩
  · rintro ⟨hfinite, hlimit, hword, hrounded, rfl⟩
    simp [hfinite, hlimit, hword, hrounded]

theorem measure_eq_ok {spec : SizeSpec} {token subtoken : String} {m : Measure}
    (h : spec.measure token subtoken = .ok m) :
    ∃ amount rest unit, split? subtoken = some (amount, rest) ∧
      SizeUnit.ofText? rest = some unit ∧ amount.lt (.zero false) = false ∧
      amount.isZero = false ∧ spec.round? amount unit = some m := by
  unfold measure at h
  rcases hs : split? subtoken with _ | ⟨amount, rest⟩
  · simp [hs] at h
  rcases hu : SizeUnit.ofText? rest with _ | unit
  · simp [hs, hu] at h
  simp only [hs, hu] at h
  split_ifs at h with hnegative hzero
  rcases hr : spec.round? amount unit with _ | found
  · simp [hr] at h
  · simp only [hr, Except.ok.injEq] at h
    subst h
    simp only [Bool.or_eq_true, not_or, Bool.not_eq_true] at hnegative hzero
    exact ⟨amount, rest, unit, rfl, hu, hnegative, hzero.1, hr⟩

-- However small the number is, it counts as a byte at least.
theorem one_le_total {spec : SizeSpec} (hp : 1 ≤ spec.pageSize) {amount : Binary64}
    {unit : SizeUnit} {m : Measure} (hcanonical : amount.Canonical)
    (hnegative : amount.lt (.zero false) = false) (hzero : amount.isZero = false)
    (h : spec.round? amount unit = some m) : 1 ≤ m.total := by
  obtain ⟨hfinite, -, hlt, -, rfl⟩ := round?_eq_some_iff.mp h
  have hamount := hcanonical.atLeast hfinite hnegative hzero
  have hfactor := Binary64.ofNat_atLeast (unit.one_le_byteCount hp)
  have hproduct := Binary64.mul_atLeast hamount hfactor (by decide)
  exact Binary64.one_le_toNat (Binary64.ceil_atLeast hproduct) (Binary64.ne_infinity_of_lt hlt)

theorem measure_sound {spec : SizeSpec} (hp : 1 ≤ spec.pageSize) {token subtoken : String}
    {m : Measure} (h : spec.measure token subtoken = .ok m) :
    0 < m.rounded ∧ spec.multiple ∣ m.rounded := by
  obtain ⟨amount, rest, unit, hs, -, hnegative, hzero, hr⟩ := measure_eq_ok h
  have hone := one_le_total hp (Number.split?_canonical hs) hnegative hzero hr
  obtain ⟨-, -, -, -, rfl⟩ := round?_eq_some_iff.mp hr
  exact ⟨Nat.lt_of_lt_of_le hone (spec.roundedUp_bounds _).1, spec.dvd_roundedUp _⟩

end SizeSpec

end VmLauncher.Memory
