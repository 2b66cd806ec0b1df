import VmLauncher.Text.Digits
import Mathlib.Data.List.Induction
import Mathlib.Data.Nat.Digits.Defs
import Mathlib.Tactic.SplitIfs
-- Digits in a base up to sixteen, runs of them, and the number that a run stands for.
namespace VmLauncher.Text

-- A letter stands for its digit in either case.
def WritesDigit (radix : Nat) (c : Char) (d : Nat) : Prop :=
  d < radix ∧ (c = Nat.digitChar d ∨ c = (Nat.digitChar d).toUpper)

-- No digit could be taken from the front of the text.
def DigitsEnd (radix : Nat) (rest : List Char) : Prop :=
  ∀ c ∈ rest.head?, ∀ d, ¬WritesDigit radix c d

def IsSign (sign : Option Char) : Prop := sign = none ∨ sign = some '+' ∨ sign = some '-'

variable {radix : Nat}

theorem IsSign.ascii {sign : Option Char} (h : IsSign sign) : ∀ c ∈ sign.toList, c.toNat < 128 := by
  rcases h with rfl | rfl | rfl <;> simp

-- What holds of the sixteen digits in either case holds of every digit.
theorem WritesDigit.of_forall {P : Char → Prop}
    (hP : ∀ e < 16, P (Nat.digitChar e) ∧ P (Nat.digitChar e).toUpper) (hr : radix ≤ 16) {c : Char}
    {d : Nat} (h : WritesDigit radix c d) : P c := by
  obtain ⟨hlower, hupper⟩ := hP d (Nat.lt_of_lt_of_le h.1 hr)
  rcases h.2 with rfl | rfl
  · exact hlower
  · exact hupper

theorem WritesDigit.ascii {c : Char} {d : Nat} (hr : radix ≤ 16) (h : WritesDigit radix c d) :
    c.toNat < 128 :=
  h.of_forall (P := (·.toNat < 128)) (by decide) hr

theorem ascii_of_isBlank {c : Char} (h : isBlank c = true) : c.toNat < 128 := by
  simp only [isBlank, Bool.or_eq_true, decide_eq_true_eq] at h
  rcases h with (((rfl | rfl) | rfl) | rfl) | rfl <;> decide

theorem digitValue?_digitChar_sixteen {d : Nat} (h : d < 16) :
    digitValue? 16 (Nat.digitChar d) = some d ∧
      digitValue? 16 (Nat.digitChar d).toUpper = some d := by
  revert d
  decide

theorem digitValue?_eq_some_iff_sixteen (hr : radix ≤ 16) (c : Char) (d : Nat) :
    digitValue? radix c = some d ↔ d < radix ∧ digitValue? 16 c = some d := by
  simp only [digitValue?, Option.filter_eq_some_iff, decide_eq_true_eq]
  constructor
  · rintro ⟨hc, hd⟩
    exact ⟨hd, hc, by omega⟩
  · rintro ⟨hd, hc, -⟩
    exact ⟨hc, hd⟩

theorem eq_ofNat_of_sub {c first : Char} {d : Nat} (hle : first ≤ c)
    (h : c.toNat - first.toNat = d) : c = Char.ofNat (first.toNat + d) := by
  have hfirst : first.toNat ≤ c.toNat := hle
  rw [← h, Nat.add_sub_of_le hfirst, Char.ofNat_toNat]

theorem digitChars {d : Nat} (h : d < 16) :
    (d < 10 → Char.ofNat ('0'.toNat + d) = Nat.digitChar d) ∧
      (10 ≤ d → Char.ofNat ('a'.toNat + (d - 10)) = Nat.digitChar d ∧
        Char.ofNat ('A'.toNat + (d - 10)) = (Nat.digitChar d).toUpper) := by
  revert d
  decide

theorem writesDigit_of_digitValue? {c : Char} {d : Nat} (h : digitValue? 16 c = some d) :
    WritesDigit 16 c d := by
  simp only [digitValue?, Option.filter_eq_some_iff, decide_eq_true_eq] at h
  obtain ⟨hc, hd⟩ := h
  obtain ⟨hdigit, hletter⟩ := digitChars hd
  refine ⟨hd, ?_⟩
  split_ifs at hc with hnumeral hlower hupper
  · obtain rfl := Option.some.inj hc
    have hten : c.toNat - '0'.toNat < 10 := by
      have hle : c.toNat ≤ '9'.toNat := hnumeral.2
      have hnine : '9'.toNat = '0'.toNat + 9 := rfl
      omega
    exact .inl ((eq_ofNat_of_sub hnumeral.1 rfl).trans (hdigit hten))
  · have hten := Option.some.inj hc
    have hchar := eq_ofNat_of_sub (d := d - 10) hlower.1 (by omega)
    exact .inl (hchar.trans (hletter (by omega)).1)
  · have hten := Option.some.inj hc
    have hchar := eq_ofNat_of_sub (d := d - 10) hupper.1 (by omega)
    exact .inr (hchar.trans (hletter (by omega)).2)

theorem digitValue?_eq_some_iff (hr : radix ≤ 16) (c : Char) (d : Nat) :
    digitValue? radix c = some d ↔ WritesDigit radix c d := by
  rw [digitValue?_eq_some_iff_sixteen hr]
  constructor
  · rintro ⟨hd, hc⟩
    exact ⟨hd, (writesDigit_of_digitValue? hc).2⟩
  · rintro ⟨hd, hc⟩
    obtain ⟨hlower, hupper⟩ := digitValue?_digitChar_sixteen (Nat.lt_of_lt_of_le hd hr)
    rcases hc with rfl | rfl
    · exact ⟨hd, hlower⟩
    · exact ⟨hd, hupper⟩

theorem isDigit_iff (hr : radix ≤ 16) (c : Char) :
    isDigit radix c = true ↔ ∃ d, WritesDigit radix c d := by
  simp only [isDigit, Option.isSome_iff_exists, digitValue?_eq_some_iff hr]

theorem isDigit_of_run (hr : radix ≤ 16) {run : List Char} {ds : List Nat}
    (h : List.Forall₂ (WritesDigit radix) run ds) : ∀ c ∈ run, isDigit radix c = true := by
  induction h with
  | nil => simp
  | cons hc _ ih => exact List.forall_mem_cons.mpr ⟨(isDigit_iff hr _).mpr ⟨_, hc⟩, ih⟩

theorem ascii_of_isDigit (hr : radix ≤ 16) {c : Char} (h : isDigit radix c = true) :
    c.toNat < 128 := by
  obtain ⟨d, hd⟩ := (isDigit_iff hr c).mp h
  exact hd.ascii hr

theorem isDigit_plain (hr : radix ≤ 16) {c : Char} (h : isDigit radix c = true) :
    isBlank c = false ∧ c ≠ '+' ∧ c ≠ '-' := by
  obtain ⟨d, hd⟩ := (isDigit_iff hr c).mp h
  exact hd.of_forall (P := fun c => isBlank c = false ∧ c ≠ '+' ∧ c ≠ '-') (by decide) hr

theorem takeDigits_of_digitsEnd (hr : radix ≤ 16) {rest : List Char} (h : DigitsEnd radix rest) :
    takeDigits radix rest = ([], rest) := by
  cases rest with
  | nil => rfl
  | cons c rest =>
      have hnone : digitValue? radix c = none := by
        by_contra hsome
        obtain ⟨d, hd⟩ := Option.ne_none_iff_exists'.mp hsome
        exact h c rfl d ((digitValue?_eq_some_iff hr c d).mp hd)
      simp only [takeDigits, hnone]

-- A run at the front is taken, with the digits that go on with it behind.
theorem takeDigits_run_append (hr : radix ≤ 16) {run : List Char} {ds : List Nat}
    (hrun : List.Forall₂ (WritesDigit radix) run ds) (more : List Char) :
    takeDigits radix (run ++ more) =
      (ds ++ (takeDigits radix more).1, (takeDigits radix more).2) := by
  induction hrun with
  | nil => rfl
  | cons hc _ ih =>
      have hvalue := (digitValue?_eq_some_iff hr _ _).mpr hc
      simp only [List.cons_append, takeDigits, hvalue, ih]

-- The longest run is taken, and nothing of what follows it.
theorem takeDigits_append (hr : radix ≤ 16) {run : List Char} {ds : List Nat}
    (hrun : List.Forall₂ (WritesDigit radix) run ds) {rest : List Char}
    (hrest : DigitsEnd radix rest) : takeDigits radix (run ++ rest) = (ds, rest) := by
  rw [takeDigits_run_append hr hrun, takeDigits_of_digitsEnd hr hrest, List.append_nil]

-- Every text starts with such a run, be it an empty one.
theorem exists_run (radix : Nat) (cs : List Char) :
    ∃ run ds rest, cs = run ++ rest ∧ List.Forall₂ (WritesDigit radix) run ds ∧
      DigitsEnd radix rest := by
  induction cs with
  | nil => exact ⟨[], [], [], rfl, .nil, by simp [DigitsEnd]⟩
  | cons c cs ih =>
      by_cases hc : ∃ d, WritesDigit radix c d
      · obtain ⟨d, hd⟩ := hc
        obtain ⟨run, ds, rest, rfl, hrun, hrest⟩ := ih
        exact ⟨c :: run, d :: ds, rest, rfl, .cons hd hrun, hrest⟩
      · refine ⟨[], [], c :: cs, rfl, .nil, ?_⟩
        rintro e he d hd
        obtain rfl := Option.some.inj he
        exact hc ⟨d, hd⟩

theorem takeDigits_sound (hr : radix ≤ 16) {cs rest : List Char} {ds : List Nat}
    (h : takeDigits radix cs = (ds, rest)) :
    ∃ run, cs = run ++ rest ∧ List.Forall₂ (WritesDigit radix) run ds := by
  obtain ⟨run, _, _, rfl, hrun, hrest⟩ := exists_run radix cs
  rw [takeDigits_append hr hrun hrest] at h
  obtain ⟨rfl, rfl⟩ := Prod.mk.inj h
  exact ⟨run, rfl, hrun⟩

theorem length_takeDigits_le (hr : radix ≤ 16) (cs : List Char) :
    (takeDigits radix cs).2.length ≤ cs.length := by
  rcases htaken : takeDigits radix cs with ⟨ds, rest⟩
  obtain ⟨run, rfl, -⟩ := takeDigits_sound hr htaken
  simp

-- Nothing is taken, or the text begins with a digit and gets shorter.
theorem takeDigits_cases (hr : radix ≤ 16) (more : List Char) :
    takeDigits radix more = ([], more) ∨
      (takeDigits radix more).2.length < more.length ∧
        ∃ c ∈ more.head?, isDigit radix c = true := by
  rcases htaken : takeDigits radix more with ⟨ds, rest⟩
  obtain ⟨run, rfl, hrun⟩ := takeDigits_sound hr htaken
  cases hrun with
  | nil => exact .inl rfl
  | @cons c d run ds hc hrun =>
      have hdigit := (isDigit_iff hr c).mpr ⟨d, hc⟩
      have hlength : rest.length < (c :: run ++ rest).length := by
        simp only [List.length_append, List.length_cons]
        omega
      exact .inr ⟨hlength, c, rfl, hdigit⟩

theorem takeSign_cons {sign : Option Char} {cs : List Char}
    (h : (sign = none ∧ ∀ c ∈ cs.head?, c ≠ '+' ∧ c ≠ '-') ∨ sign = some '+' ∨ sign = some '-') :
    takeSign (sign.toList ++ cs) = (decide (sign = some '-'), cs) := by
  rcases h with ⟨rfl, hcs⟩ | rfl | rfl
  · cases cs with
    | nil => rfl
    | cons c cs =>
        obtain ⟨hplus, hminus⟩ := hcs c rfl
        simp [takeSign, hplus, hminus]
  · rfl
  · rfl

theorem takeSign_of_isSign {sign : Option Char} (h : IsSign sign) {cs : List Char}
    (hcs : ∀ c ∈ cs.head?, c ≠ '+' ∧ c ≠ '-') :
    takeSign (sign.toList ++ cs) = (decide (sign = some '-'), cs) :=
  takeSign_cons (h.imp_left fun hnone => ⟨hnone, hcs⟩)

theorem exists_sign (text : List Char) :
    ∃ (sign : Option Char) (cs : List Char), text = sign.toList ++ cs ∧
      ((sign = none ∧ ∀ c ∈ cs.head?, c ≠ '+' ∧ c ≠ '-') ∨ sign = some '+' ∨ sign = some '-') := by
  by_cases hplus : text.head? = some '+'
  · obtain ⟨cs, rfl⟩ := List.head?_eq_some_iff.mp hplus
    exact ⟨some '+', cs, rfl, .inr (.inl rfl)⟩
  · by_cases hminus : text.head? = some '-'
    · obtain ⟨cs, rfl⟩ := List.head?_eq_some_iff.mp hminus
      exact ⟨some '-', cs, rfl, .inr (.inr rfl)⟩
    · refine ⟨none, text, rfl, .inl ⟨rfl, fun c hc => ⟨?_, ?_⟩⟩⟩
      · rintro rfl
        exact hplus hc
      · rintro rfl
        exact hminus hc

theorem digitsValue_append_singleton (radix : Nat) (ds : List Nat) (d : Nat) :
    digitsValue radix (ds ++ [d]) = digitsValue radix ds * radix + d := by
  rw [digitsValue, List.foldl_append]
  rfl

theorem digitsValue_eq_ofDigits (radix : Nat) (ds : List Nat) :
    digitsValue radix ds = Nat.ofDigits radix ds.reverse := by
  induction ds using List.reverseRecOn with
  | nil => rfl
  | append_singleton ds d ih =>
      rw [digitsValue_append_singleton, ih, List.reverse_append, List.reverse_singleton,
        List.singleton_append, Nat.ofDigits_cons, Nat.mul_comm, Nat.add_comm]

-- Further digits make no number smaller.
theorem digitsValue_le_append (hr : 1 ≤ radix) (ds es : List Nat) :
    digitsValue radix ds ≤ digitsValue radix (ds ++ es) := by
  induction es using List.reverseRecOn with
  | nil => rw [List.append_nil]
  | append_singleton es e ih =>
      rw [← List.append_assoc, digitsValue_append_singleton]
      exact ih.trans ((Nat.le_mul_of_pos_right _ hr).trans (Nat.le_add_right _ e))

theorem digitsValue_lt_pow_length (hr : 1 < radix) {ds : List Nat} (h : ∀ d ∈ ds, d < radix) :
    digitsValue radix ds < radix ^ ds.length := by
  rw [digitsValue_eq_ofDigits, ← List.length_reverse]
  exact Nat.ofDigits_lt_base_pow_length hr fun d hd => h d (List.mem_reverse.mp hd)

end VmLauncher.Text
