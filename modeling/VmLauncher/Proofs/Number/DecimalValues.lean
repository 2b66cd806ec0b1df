import VmLauncher.Proofs.Binary64.Operations
import VmLauncher.Proofs.Number.Decimals
import VmLauncher.Proofs.Number.LongestMatch
-- Decimal literals that stand for natural numbers, with digits, a point and an exponent, and
-- what may stand behind a literal without becoming a part of it.
namespace VmLauncher.Number

open Text

namespace Literal

-- What a decimal literal says, before it is rounded and without its sign.
def decimalValue (l : Literal) : ℚ :=
  digitsValue 10 (l.whole ++ l.fraction) *
    10 ^ ((l.exponent.map Exponent.value).getD 0 - l.fraction.length : Int)

theorem value_of_decimalValue {l : Literal} {n : Nat} (hbase : l.base = .decimal)
    (h : l.decimalValue = n) : l.value = .ofRatio l.negative n 1 := by
  simp only [value, hbase]
  exact Binary64.ofDecimal_of_eq h l.negative

-- The letters that literals in either base are written with, and the blanks before them.
def uses (c : Char) : Bool :=
  isBlank c || c = '+' || c = '-' || c = '.' || c = 'x' || c = 'X' || c = 'p' || c = 'P' ||
    isDigit 16 c

end Literal

section Letters

variable {base : Base} {text : List Char} {c : Char}

theorem uses_of_isBlank (h : isBlank c = true) : Literal.uses c = true := by
  simp [Literal.uses, h]

theorem uses_of_isDigit {radix : Nat} (hr : radix ≤ 16) (h : isDigit radix c = true) :
    Literal.uses c = true := by
  obtain ⟨d, hd⟩ := (isDigit_iff hr c).mp h
  have hsixteen : isDigit 16 c = true :=
    (isDigit_iff le_rfl c).mpr ⟨d, Nat.lt_of_lt_of_le hd.1 hr, hd.2⟩
  simp [Literal.uses, hsixteen]

theorem uses_of_isSign {sign : Option Char} (h : IsSign sign) :
    ∀ c ∈ sign.toList, Literal.uses c = true := by
  rcases h with rfl | rfl | rfl <;> simp [Literal.uses]

theorem uses_of_marksExponent (h : base.marksExponent c = true) : Literal.uses c = true := by
  cases base with
  | decimal =>
      simp only [Base.marksExponent, Bool.or_eq_true, decide_eq_true_eq] at h
      rcases h with rfl | rfl <;> decide
  | hexadecimal =>
      simp only [Base.marksExponent, Bool.or_eq_true, decide_eq_true_eq] at h
      rcases h with rfl | rfl <;> decide

theorem uses_of_inMantissa (h : base.inMantissa c = true) : Literal.uses c = true := by
  simp only [Base.inMantissa, Bool.or_eq_true, decide_eq_true_eq] at h
  rcases h with rfl | hdigit
  · decide
  · exact uses_of_isDigit base.radix_le hdigit

theorem WritesExponent.uses {exponent : Option Exponent} (h : WritesExponent base text exponent) :
    ∀ c ∈ text, Literal.uses c = true := by
  cases h with
  | absent => simp
  | present hletter hsign hrun =>
      refine List.forall_mem_cons.mpr ⟨uses_of_marksExponent hletter,
        List.forall_mem_append.mpr ⟨uses_of_isSign hsign, fun c hc => ?_⟩⟩
      exact uses_of_isDigit (by decide) (isDigit_of_run (by decide) hrun c hc)

theorem Base.Marks.uses (h : base.Marks text) : ∀ c ∈ text, Literal.uses c = true := by
  cases h with
  | decimal => simp
  | hexadecimal hx => rcases hx with rfl | rfl <;> simp [Literal.uses] <;> decide

theorem Literal.WrittenAs.uses {l : Literal} (h : l.WrittenAs text) :
    ∀ c ∈ text, Literal.uses c = true := by
  obtain ⟨hblanks, hsign, hmark, hmantissa, hexponent⟩ := h
  exact List.forall_mem_append.mpr ⟨fun c hc => uses_of_isBlank (hblanks c hc),
    List.forall_mem_append.mpr ⟨uses_of_isSign hsign, List.forall_mem_append.mpr ⟨hmark.uses,
      List.forall_mem_append.mpr
        ⟨fun c hc => uses_of_inMantissa (hmantissa.inMantissa c hc), hexponent.uses⟩⟩⟩⟩

-- Behind a literal, nothing is taken of a text that could be no part of any.
theorem Literal.scan?_append_of_foreign {l : Literal} {more : List Char} (h : l.WrittenAs text)
    (hmore : ∀ c ∈ more, Literal.uses c = false) :
    Literal.scan? (text ++ more) = some (l, more) := by
  obtain ⟨found, rest, hscan, hfound⟩ := Literal.scan?_append h more
  rcases hfound with ⟨rfl, rfl⟩ | hlt
  · exact hscan
  · obtain ⟨longer, hlonger, hl⟩ := Literal.scan?_sound hscan
    rcases List.append_eq_append_iff.mp hlonger with ⟨taken, rfl, rfl⟩ | ⟨left, rfl, rfl⟩
    · have hne : taken ≠ [] := by
        rintro rfl
        simp at hlt
      obtain ⟨c, taken, rfl⟩ := List.exists_cons_of_ne_nil hne
      have huse := hl.uses c (by simp)
      rw [hmore c (by simp)] at huse
      contradiction
    · rw [List.length_append] at hlt
      omega

end Letters

-- A decimal literal for a natural number, with or without a sign: digits alone, or with a
-- point and an exponent.
def WritesNatural (text : String) (negative : Bool) (n : Nat) : Prop :=
  ∃ l : Literal, l.WrittenAs text.toList ∧ l.base = .decimal ∧ l.negative = negative ∧
    l.decimalValue = n

section Naturals

variable {text digits : String} {negative : Bool} {n : Nat}

theorem writesNatural_of_spells (h : Spells digits n) : WritesNatural digits false n := by
  obtain ⟨ds, hne, hlt, hchars, rfl⟩ := h
  have hmantissa : WritesMantissa 10 (ds.map Nat.digitChar) ds [] :=
    .whole (forall₂_digitChar hlt) (by simpa using hne)
  have hunsigned : (⟨false, .decimal, ds, [], none⟩ : Literal).WrittenUnsigned false
      ([] ++ (ds.map Nat.digitChar ++ [])) := .intro .decimal hmantissa .absent
  rw [List.nil_append, List.append_nil, ← hchars] at hunsigned
  have hwritten : (⟨false, .decimal, ds, [], none⟩ : Literal).WrittenAs digits.toList :=
    .intro (List.forall_mem_nil _) (.inl rfl) hunsigned
  exact ⟨_, hwritten, rfl, rfl, by simp [Literal.decimalValue]⟩

-- However a natural number is written, it is rounded once.
theorem split?_writesNatural (h : WritesNatural text negative n) {rest : String}
    (hrest : ∀ c ∈ rest.toList, Literal.uses c = false) :
    split? (text ++ rest) = some (.ofRatio negative n 1, rest) := by
  obtain ⟨l, hl, hbase, rfl, hvalue⟩ := h
  simp only [split?, String.toList_append, Literal.scan?_append_of_foreign hl hrest,
    Option.map_some, Literal.value_of_decimalValue hbase hvalue, String.ofList_toList]

end Naturals

end VmLauncher.Number
