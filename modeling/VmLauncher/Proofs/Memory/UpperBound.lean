import VmLauncher.Proofs.Memory.Notes
import VmLauncher.Proofs.Memory.Rounding
import VmLauncher.Proofs.Memory.Units
-- Sizes in pages of a power of two: the range is checked in three places, and together they
-- refuse just what cannot be counted in 64 bits.
namespace VmLauncher.Memory

open Binary64 (Representable nearestNat)
open Host (Scene)

namespace SizeUnit

theorem factor_holds_of_eq {pageSize j : Nat} {unit : SizeUnit} (hj : j ≤ 63)
    (hcount : unit.byteCount pageSize = 2 ^ j) :
    (unit.factor pageSize).Holds (unit.byteCount pageSize) := by
  apply (factor_rounds pageSize unit).holds
  rw [hcount]
  exact Binary64.representable_two_pow (by rw [Binary64.maxExponent]; omega)

variable {pageSize k : Nat} (hk : k ≤ 63) (hpage : pageSize = 2 ^ k)

include hk hpage

theorem exists_byteCount_eq (unit : SizeUnit) : ∃ j ≤ 63, unit.byteCount pageSize = 2 ^ j := by
  by_cases h : unit = .pages
  · rw [h]
    exact ⟨k, hk, hpage⟩
  · obtain ⟨j, hj, hcount⟩ := byteCount_eq_two_pow h pageSize
    exact ⟨j, hj.trans (by decide), hcount⟩

theorem factor_holds (unit : SizeUnit) :
    (unit.factor pageSize).Holds (unit.byteCount pageSize) := by
  obtain ⟨j, hj, hcount⟩ := exists_byteCount_eq hk hpage unit
  exact factor_holds_of_eq hj hcount

theorem representable_mul {unit : SizeUnit} {x : ℚ} (hx : Representable x) (hpos : 0 < x)
    (hsmall : x * unit.byteCount pageSize < wordLimit) :
    Representable (x * unit.byteCount pageSize) := by
  obtain ⟨j, hj, hcount⟩ := exists_byteCount_eq hk hpage unit
  have hscale : ((unit.byteCount pageSize : Nat) : ℚ) = 2 ^ (j : Int) := by
    rw [hcount, zpow_natCast]
    push_cast
    rfl
  rw [hscale] at hsmall ⊢
  exact hx.mul_two_zpow hpos (.inl (Int.natCast_nonneg j)) (hsmall.trans wordLimit_lt_two_zpow)

end SizeUnit

-- The last number below the limit of a word is 2 ^ 11 before it.
theorem le_of_lt_word {value : ℚ} (h : Representable value) (hlt : value < 2 ^ 64) :
    value ≤ 2 ^ 64 - 2 ^ 11 := by
  obtain ⟨m, e, hm, -, -, rfl⟩ := h
  have hover : Binary64.overfull = 2 ^ 53 := rfl
  rcases le_or_gt 11 e with hcoarse | hfine
  · obtain ⟨i, rfl⟩ := Int.le.dest hcoarse
    have hscaled : (m : ℚ) * 2 ^ (11 + (i : Int)) = (m * 2 ^ i : Nat) * 2 ^ 11 := by
      rw [zpow_add₀ two_ne_zero, zpow_natCast]
      push_cast
      norm_num
      ring
    rw [hscaled] at hlt ⊢
    have hplaces : m * 2 ^ i < 2 ^ 53 := by
      have hbelow : ((m * 2 ^ i : Nat) : ℚ) < (2 ^ 53 : Nat) := by
        norm_num at hlt ⊢
        linarith
      exact_mod_cast hbelow
    have hlast : ((m * 2 ^ i : Nat) : ℚ) ≤ (2 ^ 53 - 1 : Nat) := by exact_mod_cast (by omega)
    norm_num at hlast ⊢
    linarith
  · have hsmall : (m : ℚ) * 2 ^ e ≤ 2 ^ 53 * 2 ^ (10 : Int) := by
      gcongr
      · exact_mod_cast (by omega : m ≤ 2 ^ 53)
      · exact one_le_two
      · omega
    norm_num at hsmall ⊢
    linarith

namespace SizeSpec

variable {spec : SizeSpec} {k : Nat}

-- The headroom is rounded down only to the end of the numbers below the limit of a word.
theorem le_nearestNat_headroom :
    ∀ k < 64, 2 ^ 64 - 2 ^ max k 11 ≤ nearestNat (2 ^ 64 - 1 - 2 ^ k) := by
  decide +kernel

theorem le_headroom (hk : k ≤ 63) (hmultiple : spec.multiple = 2 ^ k) {headroom : ℚ}
    (h : (Binary64.ofNat (wordLimit - 1 - spec.multiple)).Holds headroom) :
    2 ^ 64 - 2 ^ max k 11 ≤ headroom := by
  have hpower : 2 ^ k ≤ 2 ^ 63 := Nat.pow_le_pow_right two_pos hk
  have hend : 2 ^ max k 11 ≤ 2 ^ 64 := Nat.pow_le_pow_right two_pos (by omega)
  have hpos : 0 < wordLimit - 1 - spec.multiple := by
    rw [hmultiple, show wordLimit = 2 ^ 64 from rfl]
    omega
  obtain rfl := h.unique (Binary64.ofNat_holds hpos h.isFinite)
  rw [hmultiple]
  have htable := le_nearestNat_headroom k (by omega)
  have hcast : ((2 ^ 64 - 2 ^ max k 11 : Nat) : ℚ) ≤ nearestNat (2 ^ 64 - 1 - 2 ^ k) := by
    exact_mod_cast htable
  rw [Nat.cast_sub hend] at hcast
  exact_mod_cast hcast

-- What can be counted once it is rounded up leaves a whole multiple of room, and as a number
-- it also stays where numbers end.
theorem le_headroom_of_roundedUp (hk : k ≤ 63) (hmultiple : spec.multiple = 2 ^ k)
    {value headroom : ℚ} (hnumber : Representable value) (hfits : spec.roundedUp ⌈value⌉₊ < wordLimit)
    (h : (Binary64.ofNat (wordLimit - 1 - spec.multiple)).Holds headroom) : value ≤ headroom := by
  refine le_trans ?_ (le_headroom hk hmultiple h)
  have hword : wordLimit = 2 ^ 64 := rfl
  have hceil : value ≤ spec.roundedUp ⌈value⌉₊ :=
    (Nat.le_ceil value).trans (by exact_mod_cast (spec.roundedUp_bounds _).1)
  rcases Nat.le_total k 11 with hfine | hcoarse
  · rw [max_eq_right hfine]
    apply le_of_lt_word hnumber
    calc value ≤ spec.roundedUp ⌈value⌉₊ := hceil
      _ < 2 ^ 64 := by exact_mod_cast hfits
  · rw [max_eq_left hcoarse]
    have hdvd : spec.multiple ∣ 2 ^ 64 - spec.roundedUp ⌈value⌉₊ :=
      Nat.dvd_sub (hmultiple ▸ Nat.pow_dvd_pow 2 (by omega)) (spec.dvd_roundedUp _)
    have hroom := Nat.le_of_dvd (by omega) hdvd
    rw [hmultiple] at hroom
    have hsum : spec.roundedUp ⌈value⌉₊ + 2 ^ k ≤ 2 ^ 64 := by omega
    have hcast : (spec.roundedUp ⌈value⌉₊ : ℚ) + 2 ^ k ≤ 2 ^ 64 := by exact_mod_cast hsum
    linarith

variable {amount : Binary64} {unit : SizeUnit} {x : ℚ}

theorem le_roundedUp_of_large {value : ℚ} (h : wordLimit ≤ value) :
    wordLimit ≤ spec.roundedUp ⌈value⌉₊ := by
  have hceil : wordLimit ≤ ⌈value⌉₊ := by
    have hword := h.trans (Nat.le_ceil value)
    exact_mod_cast hword
  exact hceil.trans (spec.roundedUp_bounds _).1

theorem round?_eq_none_of_large {f : ℚ} (hx : amount.Holds x)
    (hf : (unit.factor spec.pageSize).Holds f) (hlarge : wordLimit ≤ x * f) :
    spec.round? amount unit = none := by
  rw [Option.eq_none_iff_forall_ne_some]
  intro m hm
  obtain ⟨product, hproduct⟩ := product_holds_of_lt hx hf (round?_eq_some_iff.mp hm).2.2.1
  obtain ⟨v, hv, hle⟩ := (Binary64.ofNat_rounds wordLimit).mono (Binary64.mul_rounds hx hf) hlarge
    hproduct
  obtain rfl := hv.unique wordLimit_holds
  obtain ⟨-, hfits, -⟩ := (round?_eq_some_iff_of_holds hx hproduct).mp hm
  exact absurd hfits (not_lt.mpr (le_roundedUp_of_large hle))

-- The product by a power of two is exact, so all that counts is whether its multiple fits.
theorem round?_eq_ite (hk : k ≤ 63) (hmultiple : spec.multiple = 2 ^ k)
    (hpage : spec.pageSize = 2 ^ k) (hamount : amount.Canonical) (hx : amount.Holds x)
    (hpos : 0 < x) (unit : SizeUnit) :
    let total := ⌈x * unit.byteCount spec.pageSize⌉₊
    spec.round? amount unit =
      if spec.roundedUp total < wordLimit then some ⟨total, spec.roundedUp total⟩ else none := by
  intro total
  have hf := SizeUnit.factor_holds hk hpage unit
  have hxnumber := hamount.representable hx
  rcases lt_or_ge (x * unit.byteCount spec.pageSize) wordLimit with hsmall | hlarge
  · have hnumber := SizeUnit.representable_mul hk hpage hxnumber hpos hsmall
    have hiff {m : Measure} := round?_eq_some_iff_of_holds (m := m) hx
      ((Binary64.mul_rounds hx hf).holds hnumber)
    split_ifs with hfits
    · obtain ⟨headroom, hheadroom, -⟩ := spec.headroom_holds
      have hone : 1 ≤ spec.pageSize := hpage ▸ Nat.one_le_two_pow
      have hroom := le_headroom_of_roundedUp hk hmultiple hnumber hfits hheadroom
      exact hiff.mpr ⟨limit_covers hx hxnumber hf (factor_pos hone hf) hheadroom hroom, hfits, rfl⟩
    · rw [Option.eq_none_iff_forall_ne_some]
      intro m hm
      exact hfits (hiff.mp hm).2.1
  · rw [if_neg (not_lt.mpr (le_roundedUp_of_large hlarge))]
    exact round?_eq_none_of_large hx hf hlarge

-- A size is out of range exactly if the multiple that it would be rounded up to is. In all
-- other cases the size is that multiple, unless the note about it fails.
theorem sharp_upper_bound (spec : SizeSpec) {subtoken rest : String} (token program : String)
    (scene : Scene) (hk : k ≤ 63) (hround : spec.roundTo = 2 ^ k) (hpage : spec.pageSize = 2 ^ k)
    (hsplit : Number.split? subtoken = some (amount, rest))
    (hunit : SizeUnit.ofText? rest = some unit) (hx : amount.Holds x) (hpos : 0 < x) :
    ∃ bytes, IsLeast {m : Nat | spec.roundTo ∣ m ∧ x * unit.byteCount spec.pageSize ≤ m} bytes ∧
      ((spec.parse token subtoken program scene).1 = .error (.outOfRange subtoken) ↔
        2 ^ 64 ≤ bytes) ∧
      (bytes < 2 ^ 64 → (spec.parse token subtoken program scene).1 = .ok bytes ∨
        ∃ e, (spec.parse token subtoken program scene).1 = .error (.console e)) ∧
      (bytes < 2 ^ 64 → scene.Endless →
        (spec.parse token subtoken program scene).1 = .ok bytes) := by
  have hmultiple : spec.multiple = spec.roundTo :=
    Nat.max_eq_left (hround ▸ Nat.one_le_two_pow)
  have hite := round?_eq_ite hk (hmultiple.trans hround) hpage
    (Number.split?_canonical hsplit) hx hpos unit
  have hmeasure : spec.measure token subtoken = _ := measure_of_holds hsplit hunit hx hpos
  have hleast := spec.roundedUp_natCeil_isLeast (x * unit.byteCount spec.pageSize)
  rw [hmultiple] at hleast
  set bytes := spec.roundedUp ⌈x * unit.byteCount spec.pageSize⌉₊
  have hword : wordLimit = 2 ^ 64 := rfl
  rw [← hword]
  refine ⟨bytes, hleast, ?_⟩
  rcases lt_or_ge bytes wordLimit with hfits | hover
  · rw [hite, if_pos hfits] at hmeasure
    have hcases := parse_cases hmeasure program scene
    refine ⟨iff_of_false ?_ (not_le.mpr hfits), fun _ => hcases, fun _ hendless => ?_⟩
    · rcases hcases with hok | ⟨e, he⟩
      · simp [hok]
      · simp [he]
    · exact parse_of_endless hmeasure program hendless
  · rw [hite, if_neg (not_lt.mpr hover)] at hmeasure
    refine ⟨iff_of_true ?_ hover, fun hfits => absurd hover (not_le.mpr hfits),
      fun hfits => absurd hover (not_le.mpr hfits)⟩
    rw [parse_of_error hmeasure]

-- All pages but the last can be asked for.
theorem sharp_upper_bound_of_pages :
    let spec : SizeSpec := ⟨"maximum heap size", "mx", 2 ^ 12, 2 ^ 12⟩
    let subtoken := "4503599627370495pages"
    let amount : Binary64 := .finite false 9007199254740990 (-1)
    let scene : Scene := ⟨.unlimited, ⟨[], []⟩, []⟩
    ((12 ≤ 63 ∧ spec.roundTo = 2 ^ 12 ∧ spec.pageSize = 2 ^ 12) ∧
      Number.split? subtoken = some (amount, "pages") ∧
      SizeUnit.ofText? "pages" = some .pages ∧ amount.Holds 4503599627370495 ∧
      (0 : ℚ) < 4503599627370495) ∧
      (spec.parse ("-Xmx" ++ subtoken) subtoken "bootvm" scene).1 = .ok (2 ^ 64 - 2 ^ 12) := by
  intro spec subtoken amount scene
  have hsplit : Number.split? subtoken = some (amount, "pages") := by decide +kernel
  have hunit : SizeUnit.ofText? "pages" = some .pages := by decide
  have hx : amount.Holds 4503599627370495 := ⟨9007199254740990, -1, rfl, by norm_num⟩
  obtain ⟨bytes, hleast, -, -, hok⟩ := sharp_upper_bound spec ("-Xmx" ++ subtoken) "bootvm"
    scene (by decide : 12 ≤ 63) rfl rfl hsplit hunit hx (by norm_num)
  have hpages : IsLeast {m : Nat | spec.roundTo ∣ m ∧
      4503599627370495 * (SizeUnit.byteCount spec.pageSize .pages : ℚ) ≤ m} (2 ^ 64 - 2 ^ 12) := by
    have hbytes : 4503599627370495 * (SizeUnit.byteCount spec.pageSize .pages : ℚ) =
        (2 ^ 64 - 2 ^ 12 : Nat) := by
      norm_num [spec, SizeUnit.byteCount]
    rw [hbytes]
    exact ⟨⟨by decide, le_rfl⟩, fun m hm => by exact_mod_cast hm.2⟩
  obtain rfl := hleast.unique hpages
  exact ⟨⟨⟨by decide, rfl, rfl⟩, hsplit, hunit, hx, by norm_num⟩, hok (by decide) rfl⟩

end SizeSpec

end VmLauncher.Memory
