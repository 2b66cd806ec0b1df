import VmLauncher.Proofs.Number.Grammar
import VmLauncher.Proofs.Text.Bytewise
import Mathlib.Data.List.TakeWhile
-- The literal that is scanned is the longest one at the front of the text.
namespace VmLauncher.Number

open Text

namespace Literal

section Mantissa

variable {base : Base} {text run after cs rest more : List Char} {ds es : List Nat}

theorem takeMantissa?_of_digits (h : takeDigits base.radix cs = (ds, rest)) (hne : ds ≠ []) :
    ∃ fraction behind, takeMantissa? base cs = some (ds, fraction, behind) ∧
      (fraction = [] ∧ behind = rest ∨ behind.length < rest.length ∧ rest.head? = some '.') := by
  have hds : ds.isEmpty = false := by simpa using hne
  simp only [takeMantissa?, h, hds]
  split
  · next after =>
      have hle := length_takeDigits_le base.radix_le after
      exact ⟨_, _, rfl, .inr ⟨Nat.lt_succ_of_le hle, rfl⟩⟩
  · exact ⟨_, _, rfl, .inl ⟨rfl, rfl⟩⟩

theorem takeMantissa?_point (hrun : List.Forall₂ (WritesDigit base.radix) run ds)
    (hafter : List.Forall₂ (WritesDigit base.radix) after es) (hne : ds ≠ [] ∨ es ≠ [])
    (more : List Char) :
    takeMantissa? base (run ++ '.' :: (after ++ more)) =
      some (ds, es ++ (takeDigits base.radix more).1, (takeDigits base.radix more).2) := by
  have hpoint : DigitsEnd base.radix ('.' :: (after ++ more)) := by
    rintro c hc d hd
    obtain rfl := Option.some.inj hc
    have hdigit := (isDigit_iff base.radix_le '.').mpr ⟨d, hd⟩
    cases base <;> contradiction
  have hsome : ¬(ds = [] ∧ es = [] ∧ (takeDigits base.radix more).1 = []) := by
    rintro ⟨hds, hes, -⟩
    exact hne.elim (absurd hds) (absurd hes)
  simp [takeMantissa?, takeDigits_append base.radix_le hrun hpoint,
    takeDigits_run_append base.radix_le hafter, hsome]

-- Digits that go on behind a mantissa are taken with it.
theorem takeMantissa?_append (h : WritesMantissa base.radix text ds es) (more : List Char) :
    ∃ whole fraction rest, takeMantissa? base (text ++ more) = some (whole, fraction, rest) ∧
      (whole = ds ∧ fraction = es ∧ rest = more ∨
        rest.length < more.length ∧ ∃ c ∈ more.head?, base.inMantissa c = true) := by
  have hgoes (es : List Nat) :
      es ++ (takeDigits base.radix more).1 = es ∧ (takeDigits base.radix more).2 = more ∨
        (takeDigits base.radix more).2.length < more.length ∧
          ∃ c ∈ more.head?, base.inMantissa c = true := by
    rcases takeDigits_cases base.radix_le more with heq | ⟨hlt, c, hc, hdigit⟩
    · exact .inl ⟨by simp [heq], by simp [heq]⟩
    · exact .inr ⟨hlt, c, hc, by simp [Base.inMantissa, hdigit]⟩
  cases h with
  | whole hrun hne =>
      have hds : ds ≠ [] := (run_eq_nil_iff hrun).not.mp hne
      obtain ⟨fraction, rest, htaken, hrest⟩ :=
        takeMantissa?_of_digits (takeDigits_run_append base.radix_le hrun more)
          (List.append_ne_nil_of_left_ne_nil hds _)
      refine ⟨_, fraction, rest, htaken, ?_⟩
      rcases hgoes ds with ⟨hwhole, hsame⟩ | ⟨hlt, hdigit⟩
      · rw [hsame] at hrest
        rcases hrest with ⟨hnone, hrest⟩ | ⟨hlt, hpoint⟩
        · exact .inl ⟨hwhole, hnone, hrest⟩
        · exact .inr ⟨hlt, '.', hpoint, rfl⟩
      · have hle : rest.length ≤ (takeDigits base.radix more).2.length := by
          rcases hrest with ⟨-, hsame⟩ | ⟨hless, -⟩
          · rw [hsame]
          · exact hless.le
        exact .inr ⟨Nat.lt_of_le_of_lt hle hlt, hdigit⟩
  | @point run after _ _ hrun hne hafter =>
      have hds : ds ≠ [] := (run_eq_nil_iff hrun).not.mp hne
      have htaken := takeMantissa?_point hrun hafter (.inl hds) more
      exact ⟨_, _, _, by simpa using htaken, (hgoes es).imp_left fun hsame => ⟨rfl, hsame⟩⟩
  | @fraction after _ hafter hne =>
      have hes : es ≠ [] := (run_eq_nil_iff hafter).not.mp hne
      have htaken := takeMantissa?_point .nil hafter (.inr hes) more
      exact ⟨_, _, _, by simpa using htaken, (hgoes es).imp_left fun hsame => ⟨rfl, hsame⟩⟩

theorem takeMantissa?_sound {whole fraction : List Nat}
    (h : takeMantissa? base cs = some (whole, fraction, rest)) :
    ∃ text, cs = text ++ rest ∧ WritesMantissa base.radix text whole fraction := by
  rcases hdigits : takeDigits base.radix cs with ⟨ds, behind⟩
  obtain ⟨run, rfl, hrun⟩ := takeDigits_sound base.radix_le hdigits
  simp only [takeMantissa?, hdigits] at h
  split at h
  · next after =>
      rcases hletters : takeDigits base.radix after with ⟨es, last⟩
      obtain ⟨letters, rfl, hafter⟩ := takeDigits_sound base.radix_le hletters
      rw [hletters] at h
      split_ifs at h with hnone
      simp only [Option.some.injEq, Prod.mk.injEq] at h
      obtain ⟨rfl, rfl, rfl⟩ := h
      refine ⟨run ++ '.' :: letters, by simp, ?_⟩
      cases hrun with
      | nil =>
          have hes : es ≠ [] := fun hnil => hnone (by simp [hnil])
          exact .fraction hafter ((run_eq_nil_iff hafter).not.mpr hes)
      | cons hc hrun => exact .point (.cons hc hrun) (List.cons_ne_nil _ _) hafter
  · split_ifs at h with hnone
    simp only [Option.some.injEq, Prod.mk.injEq] at h
    obtain ⟨rfl, rfl, rfl⟩ := h
    have hds : ds ≠ [] := fun hnil => hnone (by simp [hnil])
    exact ⟨run, rfl, .whole hrun ((run_eq_nil_iff hrun).not.mpr hds)⟩

end Mantissa

section Exponent

variable {base : Base} {text cs rest more : List Char} {exponent : Option Exponent}

theorem takeExponent_sound (h : takeExponent base cs = (exponent, rest)) :
    ∃ text, cs = text ++ rest ∧ WritesExponent base text exponent := by
  cases cs with
  | nil =>
      obtain ⟨rfl, rfl⟩ := Prod.mk.inj h
      exact ⟨[], rfl, .absent⟩
  | cons letter cs =>
      obtain ⟨sign, signed, rfl, hsign⟩ := exists_sign cs
      rcases hdigits : takeDigits 10 signed with ⟨ds, behind⟩
      obtain ⟨run, rfl, hrun⟩ := takeDigits_sound (by decide) hdigits
      simp only [takeExponent, takeSign_cons hsign, hdigits] at h
      split_ifs at h with hletter hnone
      · obtain ⟨rfl, rfl⟩ := Prod.mk.inj h
        exact ⟨[], rfl, .absent⟩
      · obtain ⟨rfl, rfl⟩ := Prod.mk.inj h
        have hne : run ≠ [] := (run_eq_nil_iff hrun).not.mpr fun hnil => hnone (by simp [hnil])
        exact ⟨letter :: (sign.toList ++ run), by simp,
          .present hletter (hsign.imp_left And.left) hrun hne⟩
      · obtain ⟨rfl, rfl⟩ := Prod.mk.inj h
        exact ⟨[], rfl, .absent⟩

theorem takeExponent_append (h : WritesExponent base text exponent) (more : List Char) :
    ∃ found rest, takeExponent base (text ++ more) = (found, rest) ∧
      (found = exponent ∧ rest = more ∨ rest.length < more.length) := by
  cases h with
  | absent =>
      rcases htaken : takeExponent base more with ⟨found, rest⟩
      refine ⟨found, rest, htaken, ?_⟩
      obtain ⟨letters, rfl, hletters⟩ := takeExponent_sound htaken
      cases hletters with
      | absent => exact .inl ⟨rfl, rfl⟩
      | present => exact .inr (by simp; omega)
  | @present letter sign run ds hletter hsign hrun hne =>
      have hhead : ∀ c ∈ (run ++ more).head?, c ≠ '+' ∧ c ≠ '-' :=
        forall_head_append hne (fun c hc =>
          (isDigit_plain (by decide) (isDigit_of_run (by decide) hrun c hc)).2) more
      have hdigits := takeDigits_run_append (by decide) hrun more
      have hds : ds ≠ [] := (run_eq_nil_iff hrun).not.mp hne
      refine ⟨some ⟨decide (sign = some '-'), ds ++ (takeDigits 10 more).1⟩,
        (takeDigits 10 more).2, ?_, ?_⟩
      · simp [takeExponent, hletter, takeSign_of_isSign hsign hhead, hdigits, hds]
      · have hten : 10 ≤ 16 := by decide
        rcases takeDigits_cases hten more with heq | ⟨hlt, -⟩
        · exact .inl (by simp [heq])
        · exact .inr hlt

end Exponent

section Unsigned

variable {negative : Bool} {base : Base} {l found : Literal} {text cs rest more : List Char}
  {mantissa letters : List Char} {whole fraction : List Nat} {exponent : Option Exponent}

theorem takeUnsigned?_sound (h : takeUnsigned? negative base cs = some (l, rest)) :
    ∃ mantissa letters whole fraction exponent, cs = mantissa ++ (letters ++ rest) ∧
      WritesMantissa base.radix mantissa whole fraction ∧ WritesExponent base letters exponent ∧
      l = ⟨negative, base, whole, fraction, exponent⟩ := by
  obtain ⟨⟨whole, fraction, behind⟩, hm, hl⟩ := Option.map_eq_some_iff.mp h
  obtain ⟨mantissa, rfl, hmantissa⟩ := takeMantissa?_sound hm
  rcases he : takeExponent base behind with ⟨exponent, last⟩
  obtain ⟨letters, rfl, hexponent⟩ := takeExponent_sound he
  simp only [he, Prod.mk.injEq] at hl
  obtain ⟨rfl, rfl⟩ := hl
  exact ⟨mantissa, letters, whole, fraction, exponent, rfl, hmantissa, hexponent, rfl⟩

-- If the digits go on behind the mantissa, there was no exponent, for its letter is no digit.
theorem takeUnsigned?_append (negative : Bool)
    (hmantissa : WritesMantissa base.radix mantissa whole fraction)
    (hexponent : WritesExponent base letters exponent) (more : List Char) :
    ∃ found rest, takeUnsigned? negative base (mantissa ++ (letters ++ more)) = some (found, rest) ∧
      (found = ⟨negative, base, whole, fraction, exponent⟩ ∧ rest = more ∨
        rest.length < more.length) := by
  obtain ⟨ds, es, behind, hm, hbehind⟩ := takeMantissa?_append hmantissa (letters ++ more)
  rcases hbehind with ⟨rfl, rfl, rfl⟩ | ⟨hlt, c, hc, hdigit⟩
  · obtain ⟨e, rest, he, hrest⟩ := takeExponent_append hexponent more
    refine ⟨⟨negative, base, ds, es, e⟩, rest, by simp [takeUnsigned?, hm, he], ?_⟩
    rcases hrest with ⟨rfl, rfl⟩ | hlt
    · exact .inl ⟨rfl, rfl⟩
    · exact .inr hlt
  · rcases he : takeExponent base behind with ⟨e, rest⟩
    refine ⟨⟨negative, base, ds, es, e⟩, rest, by simp [takeUnsigned?, hm, he], .inr ?_⟩
    obtain ⟨_, rfl, -⟩ := takeExponent_sound he
    cases hexponent with
    | absent =>
        simp only [List.nil_append, List.length_append] at hlt
        omega
    | present hletter =>
        obtain rfl := Option.some.inj hc
        rw [(marksExponent_letter hletter).1] at hdigit
        contradiction

theorem afterMark?_eq_some_iff : afterMark? cs = some rest ↔
    ∃ mark, Base.hexadecimal.Marks mark ∧ cs = mark ++ rest := by
  constructor
  · intro h
    unfold afterMark? at h
    split at h
    · next x after =>
        split_ifs at h with hx
        obtain rfl := Option.some.inj h
        exact ⟨['0', x], .hexadecimal (by simpa using hx), rfl⟩
    · contradiction
  · rintro ⟨_, hmark, rfl⟩
    cases hmark with
    | hexadecimal hx => simp [afterMark?, hx]

-- The hexadecimal literal if there is one, else the decimal one.
def scanUnsigned? (negative : Bool) (body : List Char) : Option (Literal × List Char) :=
  ((afterMark? body).bind (takeUnsigned? negative .hexadecimal)).or
    (takeUnsigned? negative .decimal body)

theorem scanUnsigned?_sound (h : scanUnsigned? negative cs = some (l, rest)) :
    ∃ text, cs = text ++ rest ∧ l.WrittenUnsigned negative text := by
  rcases Option.or_eq_some_iff.mp h with hhex | ⟨-, hdec⟩
  · obtain ⟨body, hbody, htaken⟩ := Option.bind_eq_some_iff.mp hhex
    obtain ⟨mark, hmark, rfl⟩ := afterMark?_eq_some_iff.mp hbody
    obtain ⟨mantissa, letters, whole, fraction, exponent, rfl, hmantissa, hexponent, rfl⟩ :=
      takeUnsigned?_sound htaken
    exact ⟨mark ++ (mantissa ++ letters), by simp, .intro hmark hmantissa hexponent⟩
  · obtain ⟨mantissa, letters, whole, fraction, exponent, rfl, hmantissa, hexponent, rfl⟩ :=
      takeUnsigned?_sound hdec
    exact ⟨mantissa ++ letters, by simp, .intro .decimal hmantissa hexponent⟩

-- The decimal literal in front of a hexadecimal one is the zero of its mark.
theorem hexadecimal_longer {other : Literal} {last : List Char}
    (hhex : (afterMark? cs).bind (takeUnsigned? negative .hexadecimal) = some (other, last))
    (hdec : takeUnsigned? negative .decimal cs = some (found, rest)) :
    last.length < rest.length := by
  obtain ⟨body, hbody, hother⟩ := Option.bind_eq_some_iff.mp hhex
  obtain ⟨mark, hmark, rfl⟩ := afterMark?_eq_some_iff.mp hbody
  obtain ⟨_, _, _, _, _, rfl, -⟩ := takeUnsigned?_sound hother
  obtain ⟨zero, x, hzero⟩ : ∃ zero x, ∀ after,
      takeUnsigned? negative .decimal (mark ++ after) = some (zero, x :: after) := by
    cases hmark with
    | @hexadecimal x hx =>
        refine ⟨⟨negative, .decimal, [0], [], none⟩, x, fun after => ?_⟩
        rcases hx with rfl | rfl <;> rfl
  rw [hzero] at hdec
  obtain ⟨-, rfl⟩ := Prod.mk.inj (Option.some.inj hdec)
  simp
  omega

theorem scanUnsigned?_append (h : l.WrittenUnsigned negative text) (more : List Char) :
    ∃ found rest, scanUnsigned? negative (text ++ more) = some (found, rest) ∧
      (found = l ∧ rest = more ∨ rest.length < more.length) := by
  cases h with
  | @intro base mark mantissa letters _ _ _ hmark hmantissa hexponent =>
      obtain ⟨found, rest, htaken, hrest⟩ := takeUnsigned?_append negative hmantissa hexponent more
      rw [scanUnsigned?, List.append_assoc, List.append_assoc]
      cases base with
      | hexadecimal =>
          have hbody : afterMark? (mark ++ (mantissa ++ (letters ++ more))) =
              some (mantissa ++ (letters ++ more)) := afterMark?_eq_some_iff.mpr ⟨mark, hmark, rfl⟩
          exact ⟨found, rest, by rw [hbody, Option.bind_some, htaken, Option.some_or], hrest⟩
      | decimal =>
          cases hmark
          rw [List.nil_append, htaken]
          rcases hhex : (afterMark? (mantissa ++ (letters ++ more))).bind
            (takeUnsigned? negative .hexadecimal) with _ | ⟨other, last⟩
          · exact ⟨found, rest, rfl, hrest⟩
          · have hlonger := hexadecimal_longer hhex htaken
            have hle : rest.length ≤ more.length := by
              rcases hrest with ⟨-, rfl⟩ | hlt
              · exact Nat.le_refl _
              · exact hlt.le
            exact ⟨other, last, rfl, .inr (Nat.lt_of_lt_of_le hlonger hle)⟩

end Unsigned

section Scan

variable {l : Literal} {text cs rest : List Char}

theorem scan?_eq (cs : List Char) :
    scan? cs = scanUnsigned? (takeSign (cs.dropWhile isBlank)).1
      (takeSign (cs.dropWhile isBlank)).2 := by
  generalize hsigned : takeSign (cs.dropWhile isBlank) = signed
  rw [scan?, hsigned, scanUnsigned?]
  dsimp only
  split
  · next found hfound => rw [hfound, Option.some_or]
  · next hnone => rw [hnone, Option.none_or]

theorem dropWhile_isBlank_of_plain {blanks body : List Char} {sign : Option Char}
    (hblanks : ∀ c ∈ blanks, isBlank c = true) (hsign : IsSign sign)
    (hbody : ∀ c ∈ body.head?, isBlank c = false) :
    (blanks ++ (sign.toList ++ body)).dropWhile isBlank = sign.toList ++ body := by
  rw [List.dropWhile_append_of_pos hblanks]
  rcases hsign with rfl | rfl | rfl
  · cases body with
    | nil => rfl
    | cons c body => simp [hbody c rfl]
  · rfl
  · rfl

theorem scan?_append (h : l.WrittenAs text) (more : List Char) :
    ∃ found rest, scan? (text ++ more) = some (found, rest) ∧
      (found = l ∧ rest = more ∨ rest.length < more.length) := by
  cases h with
  | intro hblanks hsign hunsigned =>
      have hplain := hunsigned.plain_head more
      rw [List.append_assoc, List.append_assoc, scan?_eq,
        dropWhile_isBlank_of_plain hblanks hsign fun c hc => (hplain c hc).1,
        takeSign_of_isSign hsign fun c hc => (hplain c hc).2]
      exact scanUnsigned?_append hunsigned more

theorem scan?_sound (h : scan? cs = some (l, rest)) : ∃ text, cs = text ++ rest ∧ l.WrittenAs text := by
  obtain ⟨sign, body, hsigned, hsign⟩ := exists_sign (cs.dropWhile isBlank)
  have hcs : cs = cs.takeWhile isBlank ++ (sign.toList ++ body) := by
    rw [← hsigned, List.takeWhile_append_dropWhile]
  have hscan : scanUnsigned? (decide (sign = some '-')) body = some (l, rest) := by
    rw [← h, scan?_eq, hsigned, takeSign_cons hsign]
  obtain ⟨unsigned, rfl, hunsigned⟩ := scanUnsigned?_sound hscan
  exact ⟨cs.takeWhile isBlank ++ (sign.toList ++ unsigned), by simpa using hcs,
    .intro (fun c => List.mem_takeWhile_imp) (hsign.imp_left And.left) hunsigned⟩

-- The letters of a literal say which one it is.
theorem WrittenAs.unique {other : Literal} (h : l.WrittenAs text) (ho : other.WrittenAs text) :
    other = l := by
  obtain ⟨found, rest, hscan, hfound⟩ := scan?_append h []
  obtain ⟨found', rest', hscan', hfound'⟩ := scan?_append ho []
  rw [hscan, Option.some.injEq, Prod.mk.injEq] at hscan'
  obtain ⟨rfl, rfl⟩ := hscan'
  simp only [List.length_nil, Nat.not_lt_zero, or_false] at hfound hfound'
  rw [← hfound.1, hfound'.1]

theorem WrittenAs.isSignedDecimal (h : l.WrittenAs text) (hbase : l.base = .decimal) :
    IsSignedDecimal (text.dropWhile isBlank) := by
  cases h with
  | @intro blanks unsigned sign hblanks hsign hunsigned =>
      have hplain := hunsigned.plain_head []
      rw [List.append_nil] at hplain
      rw [dropWhile_isBlank_of_plain hblanks hsign fun c hc => (hplain c hc).1]
      obtain ⟨hmark, hmantissa, hexponent⟩ := hunsigned
      obtain rfl : _ = Base.decimal := hbase
      cases hmark
      exact ⟨sign, _, _, _, _, _, hsign, hmantissa, hexponent, rfl⟩

structure IsLongest (cs text : List Char) : Prop where
  front : text <+: cs
  literal : IsLiteral text
  longest : ∀ other, other <+: cs → IsLiteral other → other.length ≤ text.length

theorem scan?_eq_none_iff (cs : List Char) :
    scan? cs = none ↔ ∀ text, text <+: cs → ¬IsLiteral text := by
  constructor
  · rintro hnone text ⟨more, rfl⟩ ⟨l, hl⟩
    obtain ⟨found, rest, hscan, -⟩ := scan?_append hl more
    rw [hnone] at hscan
    contradiction
  · intro h
    by_contra hsome
    obtain ⟨⟨l, rest⟩, hscan⟩ := Option.ne_none_iff_exists'.mp hsome
    obtain ⟨text, rfl, hl⟩ := scan?_sound hscan
    exact h text ⟨rest, rfl⟩ ⟨l, hl⟩

theorem scan?_eq_some_iff (cs : List Char) (l : Literal) (rest : List Char) :
    scan? cs = some (l, rest) ↔
      ∃ text, cs = text ++ rest ∧ IsLongest cs text ∧ l.WrittenAs text := by
  constructor
  · intro h
    obtain ⟨text, rfl, hl⟩ := scan?_sound h
    refine ⟨text, rfl, ⟨⟨rest, rfl⟩, ⟨l, hl⟩, ?_⟩, hl⟩
    rintro other ⟨more, hmore⟩ ⟨l', hl'⟩
    obtain ⟨found, last, hscan, hlast⟩ := scan?_append hl' more
    rw [hmore, h, Option.some.injEq, Prod.mk.injEq] at hscan
    obtain ⟨-, rfl⟩ := hscan
    have hle : rest.length ≤ more.length := by
      rcases hlast with ⟨-, rfl⟩ | hlt
      · exact Nat.le_refl _
      · exact hlt.le
    have hlength := congrArg List.length hmore
    simp only [List.length_append] at hlength
    omega
  · rintro ⟨text, rfl, hlongest, hl⟩
    obtain ⟨found, last, hscan, hlast⟩ := scan?_append hl rest
    rcases hlast with ⟨rfl, rfl⟩ | hlt
    · exact hscan
    · obtain ⟨longer, hcs, hfound⟩ := scan?_sound hscan
      have hle := hlongest.longest longer ⟨last, hcs.symm⟩ ⟨found, hfound⟩
      have hlength := congrArg List.length hcs
      simp only [List.length_append] at hlength
      omega

-- A literal that is scanned in front of some text is not made longer by it.
theorem isLongest_of_scan? (h : scan? (text ++ rest) = some (l, rest)) :
    IsLongest (text ++ rest) text ∧ l.WrittenAs text := by
  obtain ⟨other, hsame, hlongest, hl⟩ := (scan?_eq_some_iff _ _ _).mp h
  obtain rfl := List.append_cancel_right hsame
  exact ⟨hlongest, hl⟩

theorem prefix_bytewise_of_isLiteral {text cs : List Char} (h : IsLiteral text) :
    text <+: bytewise cs ↔ text <+: cs := by
  obtain ⟨l, hl⟩ := h
  exact prefix_bytewise_iff hl.ascii

-- No part of a character of several bytes is taken for one of a literal.
theorem scan?_bytewise (cs : List Char) :
    scan? (bytewise cs) = (scan? cs).map fun (l, rest) => (l, bytewise rest) := by
  rcases hscan : scan? cs with _ | ⟨l, rest⟩
  · rw [scan?_eq_none_iff] at hscan
    exact (scan?_eq_none_iff _).mpr fun text htext hl =>
      hscan text ((prefix_bytewise_of_isLiteral hl).mp htext) hl
  · obtain ⟨text, rfl, hlongest, hl⟩ := (scan?_eq_some_iff _ _ _).mp hscan
    refine (scan?_eq_some_iff _ _ _).mpr ⟨text, bytewise_append_ascii hl.ascii rest, ?_, hl⟩
    refine ⟨(prefix_bytewise_of_isLiteral ⟨l, hl⟩).mpr hlongest.front, ⟨l, hl⟩, ?_⟩
    intro other hother hliteral
    exact hlongest.longest other ((prefix_bytewise_of_isLiteral hliteral).mp hother) hliteral

end Scan

end Literal

-- A number is found exactly where a literal is, it is that of the longest one, and the rest is what
-- stands behind. All its letters are single bytes, so it makes no difference whether bytes or
-- characters are read, and what is converted from decimal digits is nothing but a sign and these.
theorem split?_longest (s : String) :
    (split? s = none ↔ ∀ text, text <+: s.toList → ¬IsLiteral text) ∧
      (∀ amount rest, split? s = some (amount, rest) ↔
        ∃ (text : List Char) (l : Literal), s.toList = text ++ rest.toList ∧
          Literal.IsLongest s.toList text ∧ l.WrittenAs text ∧ amount = l.value) ∧
      (∀ text, IsLiteral text → ∀ c ∈ text, c.toNat < 128) ∧
      (∀ (text : List Char) (l : Literal), l.WrittenAs text → l.base = .decimal →
        IsSignedDecimal (text.dropWhile isBlank)) ∧
      Literal.scan? (byteChars (utf8 s)) =
        (Literal.scan? s.toList).map fun (l, rest) =>
          (l, byteChars (utf8 (String.ofList rest))) := by
  refine ⟨?_, fun amount rest => ?_, ?_, fun text l hl => hl.isSignedDecimal, ?_⟩
  · rw [split?, Option.map_eq_none_iff, Literal.scan?_eq_none_iff]
  · simp only [split?, Option.map_eq_some_iff, Prod.exists, Literal.scan?_eq_some_iff,
      Prod.mk.injEq]
    constructor
    · rintro ⟨l, _, ⟨text, hs, hlongest, hl⟩, rfl, rfl⟩
      exact ⟨text, l, by simpa using hs, hlongest, hl, rfl⟩
    · rintro ⟨text, l, hs, hlongest, hl, rfl⟩
      exact ⟨l, rest.toList, ⟨text, hs, hlongest, hl⟩, rfl, String.ofList_toList⟩
  · rintro text ⟨l, hl⟩
    exact hl.ascii
  · have hbytes : byteChars (utf8 s) = bytewise s.toList := by rw [bytewise, String.ofList_toList]
    rw [hbytes, Literal.scan?_bytewise]
    rfl

example : Literal.scan? "\t-.5e+k".toList =
    some (⟨true, .decimal, [], [5], none⟩, "e+k".toList) := by
  decide

end VmLauncher.Number
