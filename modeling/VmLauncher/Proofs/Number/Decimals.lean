import VmLauncher.Proofs.Binary64.Operations
import VmLauncher.Proofs.Number.Literals
-- Natural numbers in decimal digits, and the literals that they are.
namespace VmLauncher.Number

open Text

-- A text that is nothing but decimal digits, of which the leading ones may be zero.
def Spells (text : String) (n : Nat) : Prop :=
  ∃ ds : List Nat, ds ≠ [] ∧ (∀ d ∈ ds, d < 10) ∧ text.toList = ds.map Nat.digitChar ∧
    digitsValue 10 ds = n

theorem exists_toDigits_eq (n : Nat) :
    ∃ ds : List Nat, ds ≠ [] ∧ (∀ d ∈ ds, d < 10) ∧ Nat.toDigits 10 n = ds.map Nat.digitChar ∧
      digitsValue 10 ds = n := by
  induction n using Nat.strongRecOn with
  | ind n ih =>
      have hlast : n % 10 < 10 := Nat.mod_lt n (by decide)
      by_cases hn : n < 10
      · refine ⟨[n], by simp, by simpa using hn, ?_, by simp [digitsValue]⟩
        exact Nat.toDigits_of_lt_base hn
      · obtain ⟨ds, -, hlt, hchars, hvalue⟩ := ih (n / 10) (by omega)
        refine ⟨ds ++ [n % 10], by simp, ?_, ?_, ?_⟩
        · intro d hd
          rcases List.mem_append.mp hd with hd | hd
          · exact hlt d hd
          · rw [List.mem_singleton.mp hd]
            exact hlast
        · rw [Nat.toDigits_eq_if (by decide), if_neg hn, hchars, List.map_append, List.map_singleton]
        · rw [digitsValue_append_singleton, hvalue]
          omega

theorem spells_toString (n : Nat) : Spells (toString n) n := by
  obtain ⟨ds, hne, hlt, hchars, hvalue⟩ := exists_toDigits_eq n
  exact ⟨ds, hne, hlt, by simp [toString, Nat.repr, hchars], hvalue⟩

theorem forall₂_digitChar {ds : List Nat} (h : ∀ d ∈ ds, d < 10) :
    List.Forall₂ (WritesDigit 10) (ds.map Nat.digitChar) ds := by
  induction ds with
  | nil => exact .nil
  | cons d ds ih =>
      have hrest := ih fun e he => h e (List.mem_cons_of_mem _ he)
      exact .cons ⟨h d (by simp), .inl rfl⟩ hrest

-- No digit is a blank, a sign or the letter that announces another base.
theorem digitChar_plain {d : Nat} (h : d < 10) :
    isBlank (Nat.digitChar d) = false ∧ Nat.digitChar d ≠ '-' ∧ Nat.digitChar d ≠ '+' ∧
      Nat.digitChar d ≠ 'x' ∧ Nat.digitChar d ≠ 'X' := by
  revert d
  decide

theorem afterMark?_digits {ds : List Nat} (h : ∀ d ∈ ds, d < 10) (hne : ds ≠ [])
    {rest : List Char} (hrest : Base.decimal.EndsAt rest) :
    Literal.afterMark? (ds.map Nat.digitChar ++ rest) = none := by
  have hsecond {x : Char} {cs : List Char} (hx : ds.map Nat.digitChar ++ rest = '0' :: x :: cs) :
      x ≠ 'x' ∧ x ≠ 'X' := by
    match ds with
    | [d] =>
        have hhead := (List.cons.inj hx).2
        exact hrest.mark x (by simpa using congrArg List.head? hhead)
    | d :: e :: ds =>
        obtain rfl := (List.cons.inj (List.cons.inj hx).2).1
        obtain ⟨-, -, -, hplain⟩ := digitChar_plain (h e (by simp))
        exact hplain
  unfold Literal.afterMark?
  split
  · next hx =>
      obtain ⟨hlower, hupper⟩ := hsecond hx
      simp [hlower, hupper]
  · rfl

theorem scan?_digits {ds : List Nat} (hne : ds ≠ []) (h : ∀ d ∈ ds, d < 10) {rest : List Char}
    (hrest : Base.decimal.EndsAt rest) :
    Literal.scan? (ds.map Nat.digitChar ++ rest) =
      some (⟨false, .decimal, ds, [], none⟩, rest) := by
  have htaken := Literal.takeUnsigned?_whole false .decimal (forall₂_digitChar h)
    (by simpa using hne) hrest
  have hmark := afterMark?_digits h hne hrest
  obtain ⟨d, ds, rfl⟩ := List.exists_cons_of_ne_nil hne
  obtain ⟨hblank, hminus, hplus, -⟩ := digitChar_plain (h d (by simp))
  simp only [List.map_cons, List.cons_append] at htaken hmark ⊢
  simp [Literal.scan?, takeSign, hblank, hminus, hplus, hmark, htaken]

-- Digits are rounded once, and what is behind them stays.
theorem split?_spells_append {digits : String} {n : Nat} (h : Spells digits n) {rest : String}
    (hrest : Base.decimal.EndsAt rest.toList) :
    split? (digits ++ rest) = some (.ofNat n, rest) := by
  obtain ⟨ds, hne, hlt, hchars, rfl⟩ := h
  rw [split?, String.toList_append, hchars, scan?_digits hne hlt hrest]
  simp [Literal.value, Binary64.ofDecimal_whole]

theorem split?_of_spells {digits : String} {n : Nat} (h : Spells digits n) :
    split? digits = some (.ofNat n, "") := by
  have hend : Base.decimal.EndsAt "".toList := Base.endsAt_nil .decimal
  have hsplit := split?_spells_append h hend
  rwa [String.append_empty] at hsplit

end VmLauncher.Number
