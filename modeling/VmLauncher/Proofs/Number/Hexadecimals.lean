import VmLauncher.Proofs.Number.Decimals
-- Natural numbers in hexadecimal digits, and the literals that they are.
namespace VmLauncher.Number

open Text

-- A text that is the mark and digits of either case, of which the leading ones may be zero.
def SpellsHexadecimal (text : String) (n : Nat) : Prop :=
  ∃ (x : Char) (run : List Char) (ds : List Nat), (x = 'x' ∨ x = 'X') ∧ run ≠ [] ∧
    List.Forall₂ (WritesDigit 16) run ds ∧ text.toList = '0' :: x :: run ∧ digitsValue 16 ds = n

variable {run : List Char} {ds : List Nat}

theorem scan?_hexadecimal {x : Char} (hx : x = 'x' ∨ x = 'X')
    (hrun : List.Forall₂ (WritesDigit 16) run ds) (hne : run ≠ []) {rest : List Char}
    (hrest : Base.hexadecimal.EndsAt rest) :
    Literal.scan? ('0' :: x :: (run ++ rest)) =
      some (⟨false, .hexadecimal, ds, [], none⟩, rest) := by
  have htaken := Literal.takeUnsigned?_whole false .hexadecimal hrun hne hrest
  have hmark : Literal.afterMark? ('0' :: x :: (run ++ rest)) = some (run ++ rest) := by
    simp [Literal.afterMark?, hx]
  have hblank : isBlank '0' = false := by decide
  simp [Literal.scan?, takeSign, hblank, hmark, htaken]

theorem hexWhole_append_singleton (ds : List Nat) (d : Nat) :
    Literal.hexWhole (ds ++ [d]) = ((Literal.hexWhole ds).mul (.ofNat 16)).add (.ofNat d) := by
  rw [Literal.hexWhole, List.foldl_append]
  rfl

-- Each digit makes the sum larger, so up to the largest integer that all smaller ones are held
-- with, no step on the way rounds anything.
theorem hexWhole_holds (hlt : ∀ d ∈ ds, d < 16) (h : digitsValue 16 ds ≤ Binary64.overfull) :
    (Literal.hexWhole ds).Holds (digitsValue 16 ds : Nat) := by
  induction ds using List.reverseRecOn with
  | nil =>
      rw [show digitsValue 16 [] = 0 from rfl, Nat.cast_zero]
      exact Binary64.zero_holds
  | append_singleton ds d ih =>
      rw [digitsValue_append_singleton] at h ⊢
      have hlast : d < 16 := hlt d (by simp)
      have hsum := ih (fun e he => hlt e (List.mem_append_left [d] he)) (by omega)
      have hover : 16 ≤ Binary64.overfull := by decide
      have hshifted := Binary64.mul_holds_natCast hsum (Binary64.ofNat_holds_self hover) (by omega)
      rw [hexWhole_append_singleton]
      exact Binary64.add_holds_natCast hshifted (Binary64.ofNat_holds_self (by omega)) h

theorem lt_of_writesDigit {radix : Nat} (hrun : List.Forall₂ (WritesDigit radix) run ds) :
    ∀ d ∈ ds, d < radix := by
  induction hrun with
  | nil => simp
  | cons hc _ ih => exact List.forall_mem_cons.mpr ⟨hc.1, ih⟩

-- Past the limit, no digit of an exponent changes anything.
theorem Exponent.counted_eq (e : Exponent) :
    e.counted =
      if e.negative then -((min limit (digitsValue 10 e.digits) : Nat) : Int)
      else (min limit (digitsValue 10 e.digits) : Nat) := by
  have hmagnitude (ds : List Nat) :
      ds.foldl (fun n d => min limit (min limit (n * 10) + d)) 0 =
        min limit (digitsValue 10 ds) := by
    induction ds using List.reverseRecOn with
    | nil => rfl
    | append_singleton ds d ih =>
        rw [List.foldl_append, ih, digitsValue_append_singleton]
        simp only [List.foldl_cons, List.foldl_nil]
        omega
  rw [counted, hmagnitude]

example : Exponent.counted ⟨true, [2, 1, 4, 7, 4, 8, 3, 6, 4, 8]⟩ = -2147483647 := by decide

-- The limit is far beyond the powers of two that are numbers.
theorem twoPow_counted (e : Exponent) : Binary64.twoPow e.counted = Binary64.twoPow e.value := by
  have hlimit : Exponent.limit = 2 ^ 31 - 1 := rfl
  have hcases : e.counted = e.value ∨ 1023 < e.counted ∧ 1023 < e.value ∨
      e.counted < -1023 ∧ e.value < -1023 := by
    rw [e.counted_eq, Exponent.value]
    split_ifs <;> omega
  rcases hcases with hsame | ⟨hcounted, hvalue⟩ | ⟨hcounted, hvalue⟩
  · rw [hsame]
  · rw [Binary64.twoPow_eq_infinity hcounted, Binary64.twoPow_eq_infinity hvalue]
  · rw [Binary64.twoPow_eq_zero hcounted, Binary64.twoPow_eq_zero hvalue]

theorem split?_hexadecimal_append {digits : String} {n : Nat} (h : SpellsHexadecimal digits n)
    (hn : n ≤ Binary64.overfull) {rest : String} (hrest : Base.hexadecimal.EndsAt rest.toList) :
    ∃ amount, split? (digits ++ rest) = some (amount, rest) ∧ amount.Holds n := by
  obtain ⟨x, run, ds, hx, hne, hrun, hchars, rfl⟩ := h
  refine ⟨Literal.hexWhole ds, ?_, hexWhole_holds (lt_of_writesDigit hrun) hn⟩
  rw [split?, String.toList_append, hchars, List.cons_append, List.cons_append,
    scan?_hexadecimal hx hrun hne hrest]
  simp [Literal.value, Literal.addHexFraction]

end VmLauncher.Number
