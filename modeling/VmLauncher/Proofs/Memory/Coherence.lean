import VmLauncher.Proofs.Binary64.Scaling
import VmLauncher.Proofs.Memory.UpperBound
import VmLauncher.Proofs.Number.DecimalValues
-- One number of bytes in different units: it is the same size, or is refused for the same reason.
namespace VmLauncher.Memory

open Binary64 (Representable)
open Host (Scene)
open Number (Literal WritesNatural)

-- The reason for refusing a size, without what is quoted in the complaint.
inductive SizeError.Kind where
  | notANumber
  | unknownUnit
  | negative
  | zero
  | outOfRange
  | console
deriving DecidableEq, Repr

def SizeError.kind : SizeError → SizeError.Kind
  | notANumber _ _ => .notANumber
  | unknownUnit _ _ => .unknownUnit
  | negative _ => .negative
  | zero _ => .zero
  | outOfRange _ => .outOfRange
  | console _ => .console

namespace SizeUnit

variable {unit : SizeUnit} {text : String}

theorem foreign_of_ofText? (h : ofText? text = some unit) (hpages : unit ≠ .pages) :
    ∀ c ∈ text.toList, Literal.uses c = false := by
  rcases texts_of_ofText? h with rfl | ⟨-, rfl⟩ | hletter
  · simp
  · exact absurd rfl hpages
  · simp only [List.mem_cons, List.not_mem_nil, or_false] at hletter
    rcases hletter with rfl | rfl | rfl | rfl | rfl | rfl <;> exact List.forall_mem_singleton.mpr rfl

end SizeUnit

namespace SizeSpec

variable {spec : SizeSpec} {unit : SizeUnit} {amount : Binary64} {n j : Nat} {x headroom : ℚ}

section Shift

variable (hheadroom : (Binary64.ofNat (wordLimit - 1 - spec.multiple)).Holds headroom)
  (hle : headroom ≤ wordLimit) (hj : j ≤ 30) (hcount : unit.byteCount spec.pageSize = 2 ^ j)

theorem factor_holds_two_pow (hj : j ≤ 30) (hcount : unit.byteCount spec.pageSize = 2 ^ j) :
    (unit.factor spec.pageSize).Holds (2 ^ j) := by
  have hfactor := SizeUnit.factor_holds_of_eq (hj.trans (by decide)) hcount
  rw [hcount] at hfactor
  exact_mod_cast hfactor

include hheadroom hle

-- The headroom is none or a byte at least, so there is room below it for another thirty places.
theorem representable_headroom_shift (hj : j ≤ 30) : Representable (headroom / 2 ^ j) := by
  have hnumber := (Binary64.ofNat_rounds _).canonical.representable hheadroom
  rcases Nat.eq_zero_or_pos (wordLimit - 1 - spec.multiple) with hnone | hsome
  · rw [hnone] at hheadroom
    obtain rfl := hheadroom.unique Binary64.zero_holds
    rwa [zero_div]
  · have hone := Binary64.one_le_of_ofNat_holds hsome hheadroom
    have hshift : headroom / 2 ^ j = headroom * 2 ^ (-(j : Int)) := by
      rw [zpow_neg, zpow_natCast, div_eq_mul_inv]
    have hscale : (2 : ℚ) ^ (-(j : Int)) ≤ 1 := zpow_le_one_of_nonpos₀ one_le_two (by omega)
    rw [hshift]
    apply hnumber.mul_two_zpow (one_pos.trans_le hone)
    · right
      calc (2 : ℚ) ^ (Binary64.minExponent + 53) ≤ 2 ^ (-(j : Int)) :=
            zpow_le_zpow_right₀ one_le_two (by rw [Binary64.minExponent]; omega)
        _ ≤ headroom * 2 ^ (-(j : Int)) := le_mul_of_one_le_left (by positivity) hone
    · calc headroom * 2 ^ (-(j : Int)) ≤ headroom :=
            mul_le_of_le_one_right (one_pos.trans_le hone).le hscale
        _ ≤ wordLimit := hle
        _ < 2 ^ Binary64.maxExponent := wordLimit_lt_two_zpow

include hj hcount

-- The limit in a unit is the limit in bytes, divided without rounding.
theorem limit_holds : (spec.limit unit).Holds (headroom / 2 ^ j) :=
  (Binary64.div_rounds hheadroom (factor_holds_two_pow hj hcount) (by positivity)).holds
    (representable_headroom_shift hheadroom hle hj)

-- Where the product is exact, the unit no longer shows.
theorem round?_eq_some_iff_of_shift (hx : amount.Holds x) (hproduct : Representable (x * 2 ^ j))
    {m : Measure} :
    spec.round? amount unit = some m ↔
      x * 2 ^ j ≤ headroom ∧ spec.roundedUp ⌈x * 2 ^ j⌉₊ < wordLimit ∧
        m = ⟨⌈x * 2 ^ j⌉₊, spec.roundedUp ⌈x * 2 ^ j⌉₊⟩ := by
  have hholds := (Binary64.mul_rounds hx (factor_holds_two_pow hj hcount)).holds hproduct
  have hlimit := Binary64.lt_iff (limit_holds hheadroom hle hj hcount) hx
  rw [div_lt_iff₀ (by positivity)] at hlimit
  rw [round?_eq_some_iff_of_holds hx hholds, ← Bool.not_eq_true, hlimit, not_lt]

end Shift

-- So many units are checked and rounded as their bytes are, be they a number of 64 bits or not.
theorem round?_eq_bytes (hpages : unit ≠ .pages) (n : Nat) :
    spec.round? (.ofNat n) unit =
      spec.round? (.ofNat (n * unit.byteCount spec.pageSize)) .bytes := by
  obtain ⟨j, hj, hcount⟩ := SizeUnit.byteCount_eq_two_pow hpages spec.pageSize
  obtain ⟨headroom, hheadroom, hle⟩ := spec.headroom_holds
  rw [hcount]
  rcases (Binary64.ofNat_rounds (n * 2 ^ j)).eq_infinity_or_holds with hover | ⟨value, hvalue⟩
  · have hbytes : spec.round? (.ofNat (n * 2 ^ j)) .bytes = none := by
      rw [hover]
      rfl
    rw [hbytes]
    rcases (Binary64.ofNat_rounds n).eq_infinity_or_holds with hinfinite | ⟨x, hx⟩
    · rw [hinfinite]
      rfl
    · have hlarge := Binary64.bound_le_of_infinity hover hx
      have hword : (wordLimit : ℚ) ≤ Binary64.bound :=
        wordLimit_lt_two_zpow.le.trans (zpow_le_zpow_right₀ one_le_two (by decide))
      exact round?_eq_none_of_large hx (factor_holds_two_pow hj hcount) (hword.trans hlarge)
  · obtain ⟨x, hx, rfl⟩ := Binary64.ofNat_mul_two_pow_holds hvalue
    have hnumber := (Binary64.ofNat_rounds _).canonical.representable hvalue
    refine Option.ext fun m => ?_
    rw [round?_eq_some_iff_of_shift hheadroom hle hj hcount hx hnumber,
      round?_eq_some_iff_of_shift hheadroom hle (Nat.zero_le 30) rfl hvalue (by simpa using hnumber),
      pow_zero, mul_one]

-- What comes of a number of bytes, with or without a minus before it.
def verdict (spec : SizeSpec) (negative : Bool) (total : Nat) : Except SizeError.Kind Nat :=
  if total = 0 then .error .zero
  else if negative then .error .negative
  else
    match spec.round? (.ofNat total) .bytes with
    | none => .error .outOfRange
    | some m => .ok m.rounded

section Verdict

variable {token program number unitText : String} {scene : Scene} {negative : Bool}

-- All that counts of a number and a unit is how many bytes they make.
theorem parse_eq_verdict (hnumber : WritesNatural number negative n)
    (hunit : SizeUnit.ofText? unitText = some unit) (hpages : unit ≠ .pages)
    (hscene : scene.Endless) :
    (spec.parse token (number ++ unitText) program scene).1.mapError SizeError.kind =
      spec.verdict negative (n * unit.byteCount spec.pageSize) := by
  have hcount := SizeUnit.byteCount_pos hpages spec.pageSize
  have hsplit := Number.split?_writesNatural hnumber (SizeUnit.foreign_of_ofText? hunit hpages)
  rcases Nat.eq_zero_or_pos n with rfl | hn
  · have hnothing : (Binary64.zero negative).lt (.zero false) = false := by
      cases negative <;> rfl
    rw [parse_of_error (measure_of_zero hsplit hunit hnothing rfl), Nat.zero_mul]
    rfl
  rw [verdict, if_neg (Nat.mul_pos hn hcount).ne']
  cases negative with
  | true =>
      rw [parse_of_error (measure_of_negative hsplit hunit (Binary64.ofRatio_true_lt_zero hn))]
      rfl
  | false =>
      have hmeasure : spec.measure token (number ++ unitText) = _ :=
        measure_of_positive hsplit hunit (Binary64.ofNat_positive hn)
      rw [← Binary64.ofNat, round?_eq_bytes hpages] at hmeasure
      rw [if_neg Bool.false_ne_true]
      cases hround : spec.round? (.ofNat (n * unit.byteCount spec.pageSize)) .bytes with
      | none =>
          rw [hround] at hmeasure
          rw [parse_of_error hmeasure]
          rfl
      | some m =>
          rw [hround] at hmeasure
          rw [parse_of_endless hmeasure program hscene]
          rfl

-- As many bytes are the same size, or are refused for the same reason, in whichever unit and
-- with whichever literal they are written, and also where a literal is rounded or leaves the
-- range of numbers.
theorem coherent_units (spec : SizeSpec) {number' unitText' : String} {n' : Nat}
    {unit' : SizeUnit} {scene' : Scene} (token token' program program' : String)
    (hnumber : WritesNatural number negative n) (hnumber' : WritesNatural number' negative n')
    (hunit : SizeUnit.ofText? unitText = some unit)
    (hunit' : SizeUnit.ofText? unitText' = some unit') (hpages : unit ≠ .pages)
    (hpages' : unit' ≠ .pages)
    (hbytes : n * unit.byteCount spec.pageSize = n' * unit'.byteCount spec.pageSize)
    (hscene : scene.Endless) (hscene' : scene'.Endless) :
    (spec.parse token (number ++ unitText) program scene).1.mapError SizeError.kind =
      (spec.parse token' (number' ++ unitText') program' scene').1.mapError SizeError.kind := by
  rw [parse_eq_verdict hnumber hunit hpages hscene, parse_eq_verdict hnumber' hunit' hpages' hscene',
    hbytes]

-- A number of kilobytes that no double holds, and the same number of bytes, which none holds
-- either.
theorem coherent_units_of_rounded :
    let spec : SizeSpec := ⟨"initial heap size", "ms", 4096, 4096⟩
    let scene : Scene := ⟨.unlimited, ⟨[], []⟩, []⟩
    (WritesNatural "9007199254740993" false 9007199254740993 ∧
      WritesNatural "9223372036854776832" false 9223372036854776832 ∧
      SizeUnit.ofText? "k" = some .kilobytes ∧ SizeUnit.ofText? "" = some .bytes ∧
      9007199254740993 * SizeUnit.byteCount spec.pageSize .kilobytes =
        9223372036854776832 * SizeUnit.byteCount spec.pageSize .bytes ∧ scene.Endless) ∧
      (spec.parse "-Xms9007199254740993k" ("9007199254740993" ++ "k") "bootvm" scene).1.mapError
        SizeError.kind = .ok 9223372036854775808 := by
  intro spec scene
  have hkilobytes : WritesNatural "9007199254740993" false 9007199254740993 :=
    Number.writesNatural_of_spells (Number.spells_toString 9007199254740993)
  have hbytes : WritesNatural "9223372036854776832" false 9223372036854776832 :=
    Number.writesNatural_of_spells (Number.spells_toString 9223372036854776832)
  have hk : SizeUnit.ofText? "k" = some .kilobytes := by decide
  have hnone : SizeUnit.ofText? "" = some .bytes := by decide
  have hscene : scene.Endless := rfl
  refine ⟨⟨hkilobytes, hbytes, hk, hnone, by decide, hscene⟩, ?_⟩
  rw [coherent_units spec "-Xms9007199254740993k" "-Xms9223372036854776832" "bootvm" "bootvm"
    hkilobytes hbytes hk hnone (by decide) (by decide) (by decide) hscene hscene]
  decide +kernel

end Verdict

end SizeSpec

end VmLauncher.Memory
