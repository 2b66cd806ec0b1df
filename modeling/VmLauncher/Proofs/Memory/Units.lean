import VmLauncher.Memory.SizeUnit
import VmLauncher.Proofs.Number.Literals
-- Units behind a number: no letter of theirs is taken for a part of it.
namespace VmLauncher.Memory.SizeUnit

open Number

variable {text : String} {unit : SizeUnit}

-- All units but pages are powers of two.
theorem byteCount_eq_two_pow (h : unit ≠ .pages) (pageSize : Nat) :
    ∃ j ≤ 30, unit.byteCount pageSize = 2 ^ j := by
  cases unit with
  | pages => exact absurd rfl h
  | bytes => exact ⟨0, by decide, rfl⟩
  | kilobytes => exact ⟨10, by decide, rfl⟩
  | megabytes => exact ⟨20, by decide, rfl⟩
  | gigabytes => exact ⟨30, by decide, rfl⟩

theorem byteCount_pos (h : unit ≠ .pages) (pageSize : Nat) : 0 < unit.byteCount pageSize := by
  obtain ⟨j, -, hcount⟩ := byteCount_eq_two_pow h pageSize
  rw [hcount]
  exact Nat.two_pow_pos j

theorem texts_of_ofText? (h : ofText? text = some unit) :
    text = "" ∨ text = "pages" ∧ unit = .pages ∨ text ∈ ["k", "K", "m", "M", "g", "G"] := by
  unfold ofText? at h
  split_ifs at h with hbytes hpages hkilo hmega hgiga
  · exact .inl hbytes
  · exact .inr (.inl ⟨hpages, (Option.some.inj h).symm⟩)
  · rcases hkilo with rfl | rfl <;> simp
  · rcases hmega with rfl | rfl <;> simp
  · rcases hgiga with rfl | rfl <;> simp

-- Pages begin with the letter of a hexadecimal exponent.
theorem endsAt (h : ofText? text = some unit) {base : Base}
    (hpages : unit = .pages → base = .decimal) : base.EndsAt text.toList := by
  rcases texts_of_ofText? h with rfl | ⟨rfl, rfl⟩ | hletter
  · exact base.endsAt_nil
  · obtain rfl := hpages rfl
    exact Base.endsAt_cons (by decide) (by decide) (by decide) (by decide)
  · simp only [List.mem_cons, List.not_mem_nil, or_false] at hletter
    rcases hletter with rfl | rfl | rfl | rfl | rfl | rfl <;> cases base <;>
      exact Base.endsAt_cons (by decide) (by decide) (by decide) (by decide)

end VmLauncher.Memory.SizeUnit
