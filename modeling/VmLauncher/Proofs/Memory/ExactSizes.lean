import VmLauncher.Proofs.Memory.Notes
import VmLauncher.Proofs.Memory.Rounding
import VmLauncher.Proofs.Memory.Units
import VmLauncher.Proofs.Number.Hexadecimals
-- Sizes of so few bytes that no number on the way to them is rounded.
namespace VmLauncher.Memory

open Host
open Number (Base Spells SpellsHexadecimal)

namespace SizeSpec

variable {spec : SizeSpec} {unit : SizeUnit} {n : Nat}

theorem split?_digits_unit {digits unitText : String}
    (hdigits : Spells digits n ∨ SpellsHexadecimal digits n)
    (hunit : SizeUnit.ofText? unitText = some unit) (hpages : unit ≠ .pages)
    (hn : n ≤ Binary64.overfull) :
    ∃ amount, Number.split? (digits ++ unitText) = some (amount, unitText) ∧ amount.Holds n := by
  have hend (base : Base) : base.EndsAt unitText.toList := SizeUnit.endsAt hunit (absurd · hpages)
  rcases hdigits with hdecimal | hhexadecimal
  · exact ⟨_, Number.split?_spells_append hdecimal (hend _), Binary64.ofNat_holds_self hn⟩
  · exact Number.split?_hexadecimal_append hhexadecimal hn (hend _)

-- The headroom may be rounded, but not to below what is held and fits into it.
theorem round?_exact (hn : 0 < n) {amount : Binary64} (hamount : amount.Holds n)
    (hunit : 0 < unit.byteCount spec.pageSize)
    (hexact : n * unit.byteCount spec.pageSize ≤ Binary64.overfull)
    (hroom : n * unit.byteCount spec.pageSize + spec.multiple < wordLimit) :
    spec.round? amount unit = some ⟨n * unit.byteCount spec.pageSize,
      spec.roundedUp (n * unit.byteCount spec.pageSize)⟩ := by
  set count := unit.byteCount spec.pageSize with hcount
  have hfactor : (unit.factor spec.pageSize).Holds count :=
    Binary64.ofNat_holds_self ((Nat.le_mul_of_pos_left count hn).trans hexact)
  have hproduct := Binary64.mul_holds_natCast hamount hfactor hexact
  obtain ⟨headroom, hheadroom, -⟩ := spec.headroom_holds
  have hfits : (n : ℚ) * count ≤ headroom := by
    have hle : n * count ≤ wordLimit - 1 - spec.multiple := by omega
    obtain ⟨v, hv, hle⟩ := (Binary64.ofNat_rounds (n * count)).mono (Binary64.ofNat_rounds _)
      (by exact_mod_cast hle) hheadroom
    obtain rfl := hv.unique (Binary64.ofNat_holds_self hexact)
    exact_mod_cast hle
  have hnumber := Binary64.representable_natCast ((Nat.le_mul_of_pos_right n hunit).trans hexact)
  have hlimit := limit_covers hamount hnumber hfactor (by exact_mod_cast hunit) hheadroom hfits
  have hrounded := (spec.roundedUp_bounds (n * count)).2
  rw [round?_eq_some_iff_of_holds hamount hproduct, Nat.ceil_natCast]
  exact ⟨hlimit, by omega, rfl⟩

-- In whichever base the number is written: what is kept is the least multiple from the exact
-- number of bytes on, and there is a note exactly if that is another number.
theorem exact_size (spec : SizeSpec) {digits unitText : String} (token program : String)
    (scene : Scene) (hn : 1 ≤ n) (hround : 1 ≤ spec.roundTo)
    (hdigits : Spells digits n ∨ SpellsHexadecimal digits n)
    (hunit : SizeUnit.ofText? unitText = some unit) (hpages : unit ≠ .pages)
    (hexact : n * unit.byteCount spec.pageSize ≤ 2 ^ 53)
    (hroom : n * unit.byteCount spec.pageSize ≤ 2 ^ 64 - 1 - spec.roundTo) :
    let total := n * unit.byteCount spec.pageSize
    let run := spec.parse token (digits ++ unitText) program scene
    ∃ bytes, IsLeast {k | spec.roundTo ∣ k ∧ total ≤ k} bytes ∧
      (scene.Endless → run.1 = .ok bytes) ∧
      (spec.roundTo ∣ total → run = (.ok bytes, scene)) ∧
      (¬spec.roundTo ∣ total →
        let page := if spec.roundTo = spec.pageSize then ", the virtual memory page size" else ""
        let note := s!"{program}: Rounding up {spec.name} from {total} bytes to {bytes},\n" ++
          s!"\tthe next multiple of {spec.roundTo} bytes{page}\n"
        run.2.console = (scene.console.write note).2 ∧
          run.1 = match (scene.console.write note).1 with
            | .ok () => .ok bytes
            | .error e => .error (.console e)) := by
  intro total run
  have hcount := SizeUnit.byteCount_pos hpages spec.pageSize
  have hmultiple : spec.multiple = spec.roundTo := Nat.max_eq_left hround
  have hover : n * unit.byteCount spec.pageSize ≤ Binary64.overfull := hexact
  have hnumber : n ≤ Binary64.overfull := (Nat.le_mul_of_pos_right n hcount).trans hover
  have htotal : 0 < total := Nat.mul_pos hn hcount
  have hword : wordLimit = 2 ^ 64 := rfl
  obtain ⟨amount, hsplit, hamount⟩ := split?_digits_unit hdigits hunit hpages hnumber
  have hkept := round?_exact hn hamount hcount hover (by omega)
  have hm : spec.measure token (digits ++ unitText) = .ok ⟨total, spec.roundedUp total⟩ := by
    rw [measure_of_holds hsplit hunit hamount (by exact_mod_cast hn), hkept]
  have hleast := spec.roundedUp_isLeast total
  have hself := spec.roundedUp_eq_self_iff total
  rw [hmultiple] at hleast hself
  refine ⟨spec.roundedUp total, hleast, ?_, ?_, ?_⟩
  · intro hendless
    exact parse_of_endless hm program hendless
  · intro hdvd
    exact parse_of_whole hm (hself.mpr hdvd) program scene
  · intro hdvd
    have hnote := parse_of_rounded hm (hself.not.mpr hdvd) program scene
    rw [roundingNote, hmultiple] at hnote
    exact hnote

-- Five kilobytes, written with the mark and a zero in front, are more than a page.
theorem exact_size_of_kilobytes :
    let spec : SizeSpec := ⟨"initial heap size", "ms", 4096, 4096⟩
    let scene : Scene := ⟨.unlimited, ⟨[], []⟩, []⟩
    let run := spec.parse "-Xms0X05K" ("0X05" ++ "K") "bootvm" scene
    ((1 ≤ 5 ∧ 1 ≤ spec.roundTo) ∧ SpellsHexadecimal "0X05" 5 ∧
      SizeUnit.ofText? "K" = some .kilobytes ∧ 5 * 1024 ≤ 2 ^ 53 ∧
      5 * 1024 ≤ 2 ^ 64 - 1 - spec.roundTo ∧ scene.Endless ∧ ¬spec.roundTo ∣ 5 * 1024) ∧
      run.1 = .ok 8192 ∧
      run.2.console = (scene.console.write ("bootvm: Rounding up initial heap size from 5120 " ++
        "bytes to 8192,\n\tthe next multiple of 4096 bytes, the virtual memory page size\n")).2 := by
  intro spec scene run
  have hround : 1 ≤ spec.roundTo := by decide
  have hdigits : SpellsHexadecimal "0X05" 5 :=
    ⟨'X', ['0', '5'], [0, 5], by decide, by decide,
      .cons ⟨by decide, by decide⟩ (.cons ⟨by decide, by decide⟩ .nil), by decide, by decide⟩
  have hunit : SizeUnit.ofText? "K" = some .kilobytes := by decide
  have hpart : ¬spec.roundTo ∣ 5 * 1024 := by decide
  have hendless : scene.Endless := rfl
  obtain ⟨bytes, hleast, hok, -, hnote⟩ := exact_size spec "-Xms0X05K" "bootvm" scene
    (by decide : 1 ≤ 5) hround (.inr hdigits) hunit (by decide) (by decide) (by decide)
  have hpages : IsLeast {k | 4096 ∣ k ∧ 5 * 1024 ≤ k} 8192 := by
    refine ⟨⟨by decide, by decide⟩, ?_⟩
    rintro k ⟨hdvd, hle⟩
    omega
  obtain rfl : bytes = 8192 := hleast.unique hpages
  refine ⟨⟨⟨by decide, hround⟩, hdigits, hunit, by decide, by decide, hendless, hpart⟩,
    hok hendless, ?_⟩
  rw [(hnote hpart).1]
  exact congrArg (fun text => (scene.console.write text).2) (by decide +kernel)

end SizeSpec

end VmLauncher.Memory
