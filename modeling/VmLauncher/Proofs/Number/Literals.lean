import VmLauncher.Number.Literal
import VmLauncher.Proofs.Text.Digits
-- Literals without a point and an exponent, and the text behind them.
namespace VmLauncher.Number

open Text

-- Text with which a literal in the base does not go on, nor a zero turn into a mark.
structure Base.EndsAt (base : Base) (rest : List Char) : Prop where
  digits : DigitsEnd base.radix rest
  point : ∀ c ∈ rest.head?, c ≠ '.'
  exponent : ∀ c ∈ rest.head?, base.marksExponent c = false
  mark : ∀ c ∈ rest.head?, c ≠ 'x' ∧ c ≠ 'X'

theorem Base.endsAt_nil (base : Base) : base.EndsAt [] := by
  constructor <;> simp [DigitsEnd]

theorem Base.radix_le (base : Base) : base.radix ≤ 16 := by cases base <;> decide

theorem Base.endsAt_cons {base : Base} {c : Char} {cs : List Char}
    (hdigit : isDigit base.radix c = false) (hpoint : c ≠ '.')
    (hexponent : base.marksExponent c = false) (hmark : c ≠ 'x' ∧ c ≠ 'X') :
    base.EndsAt (c :: cs) := by
  refine ⟨?_, by simpa using hpoint, by simpa using hexponent, by simpa using hmark⟩
  rintro e he d hd
  obtain rfl := Option.some.inj he
  rw [(isDigit_iff base.radix_le c).mpr ⟨d, hd⟩] at hdigit
  contradiction

variable {base : Base} {run rest : List Char} {ds : List Nat}

theorem run_eq_nil_iff {radix : Nat} (h : List.Forall₂ (WritesDigit radix) run ds) :
    run = [] ↔ ds = [] := by
  cases h <;> simp

namespace Literal

theorem takeMantissa?_whole (hrun : List.Forall₂ (WritesDigit base.radix) run ds) (hne : run ≠ [])
    (hrest : base.EndsAt rest) : takeMantissa? base (run ++ rest) = some (ds, [], rest) := by
  have hdigits := takeDigits_append base.radix_le hrun hrest.digits
  have hds : ds.isEmpty = false := by simpa using (run_eq_nil_iff hrun).not.mp hne
  simp only [takeMantissa?, hdigits, hds]
  split
  · exact absurd rfl (hrest.point '.' rfl)
  · rfl

theorem takeExponent_endsAt (hrest : base.EndsAt rest) : takeExponent base rest = (none, rest) := by
  cases rest with
  | nil => rfl
  | cons c rest =>
      have hc : base.marksExponent c = false := hrest.exponent c rfl
      simp [takeExponent, hc]

theorem takeUnsigned?_whole (negative : Bool) (base : Base)
    (hrun : List.Forall₂ (WritesDigit base.radix) run ds) (hne : run ≠ [])
    (hrest : base.EndsAt rest) :
    takeUnsigned? negative base (run ++ rest) = some (⟨negative, base, ds, [], none⟩, rest) := by
  simp [takeUnsigned?, takeMantissa?_whole hrun hne hrest, takeExponent_endsAt hrest]

end Literal

end VmLauncher.Number
