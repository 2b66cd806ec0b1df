import VmLauncher.Proofs.Number.Literals
-- The grammar of floating literals, and the letters that its parts are written with.
namespace VmLauncher.Number

open Text

-- Digits of which some may stand behind a point. On one side of it there is a digit.
inductive WritesMantissa (radix : Nat) : List Char → List Nat → List Nat → Prop
  | whole {run : List Char} {ds : List Nat} (h : List.Forall₂ (WritesDigit radix) run ds)
      (hne : run ≠ []) : WritesMantissa radix run ds []
  | point {run after : List Char} {ds es : List Nat}
      (hrun : List.Forall₂ (WritesDigit radix) run ds) (hne : run ≠ [])
      (hafter : List.Forall₂ (WritesDigit radix) after es) :
      WritesMantissa radix (run ++ '.' :: after) ds es
  | fraction {after : List Char} {es : List Nat}
      (h : List.Forall₂ (WritesDigit radix) after es) (hne : after ≠ []) :
      WritesMantissa radix ('.' :: after) [] es

-- An exponent is in decimal digits, whatever the base.
inductive WritesExponent (base : Base) : List Char → Option Exponent → Prop
  | absent : WritesExponent base [] none
  | present {letter : Char} {sign : Option Char} {run : List Char} {ds : List Nat}
      (hletter : base.marksExponent letter = true) (hsign : IsSign sign)
      (h : List.Forall₂ (WritesDigit 10) run ds) (hne : run ≠ []) :
      WritesExponent base (letter :: (sign.toList ++ run)) (some ⟨decide (sign = some '-'), ds⟩)

inductive Base.Marks : Base → List Char → Prop
  | decimal : Base.decimal.Marks []
  | hexadecimal {x : Char} (h : x = 'x' ∨ x = 'X') : Base.hexadecimal.Marks ['0', x]

-- What a literal looks like behind its sign.
inductive Literal.WrittenUnsigned (negative : Bool) : Literal → List Char → Prop
  | intro {base : Base} {mark mantissa letters : List Char} {whole fraction : List Nat}
      {exponent : Option Exponent} (hmark : base.Marks mark)
      (hmantissa : WritesMantissa base.radix mantissa whole fraction)
      (hexponent : WritesExponent base letters exponent) :
      WrittenUnsigned negative ⟨negative, base, whole, fraction, exponent⟩
        (mark ++ (mantissa ++ letters))

-- A literal in letters, with the blanks that may stand before it.
inductive Literal.WrittenAs (l : Literal) : List Char → Prop
  | intro {blanks unsigned : List Char} {sign : Option Char}
      (hblanks : ∀ c ∈ blanks, isBlank c = true) (hsign : IsSign sign)
      (h : l.WrittenUnsigned (decide (sign = some '-')) unsigned) :
      WrittenAs l (blanks ++ (sign.toList ++ unsigned))

def IsLiteral (text : List Char) : Prop := ∃ l : Literal, l.WrittenAs text

-- A decimal literal without blanks.
def IsSignedDecimal (text : List Char) : Prop :=
  ∃ sign mantissa letters whole fraction exponent, IsSign sign ∧
    WritesMantissa 10 mantissa whole fraction ∧ WritesExponent .decimal letters exponent ∧
    text = sign.toList ++ (mantissa ++ letters)

-- What the digits of a literal are written with.
def Base.inMantissa (base : Base) (c : Char) : Bool := c = '.' || isDigit base.radix c

theorem forall_head_append {P : Char → Prop} {text : List Char} (hne : text ≠ [])
    (h : ∀ c ∈ text, P c) (more : List Char) : ∀ c ∈ (text ++ more).head?, P c := by
  obtain ⟨d, text, rfl⟩ := List.exists_cons_of_ne_nil hne
  intro c hc
  obtain rfl := Option.some.inj hc
  exact h d (List.mem_cons_self ..)

section Letters

variable {base : Base} {text : List Char} {c : Char}

theorem inMantissa_of_run {run : List Char} {ds : List Nat}
    (h : List.Forall₂ (WritesDigit base.radix) run ds) : ∀ c ∈ run, base.inMantissa c = true := by
  intro c hc
  simp [Base.inMantissa, isDigit_of_run base.radix_le h c hc]

theorem WritesMantissa.inMantissa {ds es : List Nat} (h : WritesMantissa base.radix text ds es) :
    ∀ c ∈ text, base.inMantissa c = true := by
  have hpoint : base.inMantissa '.' = true := rfl
  cases h with
  | whole h => exact inMantissa_of_run h
  | point hrun _ hafter =>
      exact List.forall_mem_append.mpr ⟨inMantissa_of_run hrun,
        List.forall_mem_cons.mpr ⟨hpoint, inMantissa_of_run hafter⟩⟩
  | fraction h => exact List.forall_mem_cons.mpr ⟨hpoint, inMantissa_of_run h⟩

theorem WritesMantissa.ne_nil {radix : Nat} {ds es : List Nat}
    (h : WritesMantissa radix text ds es) : text ≠ [] := by
  cases h with
  | whole _ hne => exact hne
  | point | fraction => simp

theorem ascii_of_inMantissa (h : base.inMantissa c = true) : c.toNat < 128 := by
  simp only [Base.inMantissa, Bool.or_eq_true, decide_eq_true_eq] at h
  rcases h with rfl | h
  · decide
  · exact ascii_of_isDigit base.radix_le h

theorem inMantissa_plain (h : base.inMantissa c = true) :
    isBlank c = false ∧ c ≠ '+' ∧ c ≠ '-' := by
  simp only [Base.inMantissa, Bool.or_eq_true, decide_eq_true_eq] at h
  rcases h with rfl | h
  · decide
  · exact isDigit_plain base.radix_le h

-- A letter for an exponent is none of the digits before it.
theorem marksExponent_letter (h : base.marksExponent c = true) :
    base.inMantissa c = false ∧ c.toNat < 128 := by
  cases base with
  | decimal =>
      simp only [Base.marksExponent, Bool.or_eq_true, decide_eq_true_eq] at h
      rcases h with rfl | rfl <;> decide
  | hexadecimal =>
      simp only [Base.marksExponent, Bool.or_eq_true, decide_eq_true_eq] at h
      rcases h with rfl | rfl <;> decide

theorem WritesExponent.ascii {exponent : Option Exponent}
    (h : WritesExponent base text exponent) : ∀ c ∈ text, c.toNat < 128 := by
  cases h with
  | absent => simp
  | present hletter hsign hrun =>
      refine List.forall_mem_cons.mpr ⟨(marksExponent_letter hletter).2,
        List.forall_mem_append.mpr ⟨hsign.ascii, fun c hc => ?_⟩⟩
      exact ascii_of_isDigit (by decide) (isDigit_of_run (by decide) hrun c hc)

theorem Base.Marks.ascii (h : base.Marks text) : ∀ c ∈ text, c.toNat < 128 := by
  cases h with
  | decimal => simp
  | hexadecimal hx => rcases hx with rfl | rfl <;> simp

theorem Literal.WrittenUnsigned.ascii {negative : Bool} {l : Literal}
    (h : l.WrittenUnsigned negative text) : ∀ c ∈ text, c.toNat < 128 := by
  obtain ⟨hmark, hmantissa, hexponent⟩ := h
  exact List.forall_mem_append.mpr ⟨hmark.ascii, List.forall_mem_append.mpr
    ⟨fun c hc => ascii_of_inMantissa (hmantissa.inMantissa c hc), hexponent.ascii⟩⟩

theorem Literal.WrittenAs.ascii {l : Literal} (h : l.WrittenAs text) :
    ∀ c ∈ text, c.toNat < 128 := by
  obtain ⟨hblanks, hsign, hunsigned⟩ := h
  exact List.forall_mem_append.mpr ⟨fun c hc => ascii_of_isBlank (hblanks c hc),
    List.forall_mem_append.mpr ⟨hsign.ascii, hunsigned.ascii⟩⟩

-- Behind the sign there is something, and it is neither a blank nor another sign.
theorem Literal.WrittenUnsigned.plain_head {negative : Bool} {l : Literal}
    (h : l.WrittenUnsigned negative text) (more : List Char) :
    ∀ c ∈ (text ++ more).head?, isBlank c = false ∧ c ≠ '+' ∧ c ≠ '-' := by
  obtain ⟨hmark, hmantissa, -⟩ := h
  cases hmark with
  | decimal =>
      rw [List.nil_append, List.append_assoc]
      exact forall_head_append hmantissa.ne_nil
        (fun c hc => inMantissa_plain (hmantissa.inMantissa c hc)) _
  | hexadecimal =>
      intro c hc
      obtain rfl := Option.some.inj hc
      decide

end Letters

end VmLauncher.Number
