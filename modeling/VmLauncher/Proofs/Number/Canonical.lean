import VmLauncher.Number.Literal
import VmLauncher.Proofs.Binary64.Arithmetic
-- Literals stand for canonical numbers.
namespace VmLauncher.Number

open Binary64 (Canonical)

theorem Literal.hexWhole_canonical (ds : List Nat) : (Literal.hexWhole ds).Canonical := by
  have hstep (v : Binary64) (hv : v.Canonical) :
      (ds.foldl (fun v d => (v.mul (.ofNat 16)).add (.ofNat d)) v).Canonical := by
    induction ds generalizing v with
    | nil => exact hv
    | cons d ds ih => exact ih _ (Binary64.add_canonical _ _)
  exact hstep _ (Binary64.zero_canonical false)

theorem Literal.addHexFraction_canonical {v : Binary64} (hv : v.Canonical) (scale : Binary64)
    (ds : List Nat) : (Literal.addHexFraction v scale ds).Canonical := by
  induction ds generalizing v scale with
  | nil => exact hv
  | cons d ds ih => exact ih (Binary64.add_canonical _ _) _

theorem Literal.value_canonical (l : Literal) : l.value.Canonical := by
  unfold Literal.value
  split
  · exact Binary64.ofDecimal_canonical _ _ _
  · have hsum := Literal.addHexFraction_canonical (Literal.hexWhole_canonical l.whole)
      ((Binary64.ofNat 1).div (.ofNat 16)) l.fraction
    rcases l.exponent with _ | e
    · dsimp only
      split_ifs
      · exact Binary64.neg_canonical hsum
      · exact hsum
    · dsimp only
      split_ifs
      · exact Binary64.neg_canonical (Binary64.mul_canonical _ _)
      · exact Binary64.mul_canonical _ _

theorem split?_canonical {text rest : String} {amount : Binary64}
    (h : split? text = some (amount, rest)) : amount.Canonical := by
  obtain ⟨⟨l, after⟩, -, hl⟩ := Option.map_eq_some_iff.mp h
  obtain rfl := (Prod.mk.inj hl).1
  exact l.value_canonical

end VmLauncher.Number
