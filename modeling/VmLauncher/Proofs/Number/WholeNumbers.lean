import VmLauncher.Number.Integer
import VmLauncher.Proofs.Text.Bytewise
import VmLauncher.Proofs.Text.Digits
import Mathlib.Data.List.TakeWhile
-- Whole numbers at the front of a text: how the text is parted, and that reading gives the
-- number as far as 64 bits can hold it.
namespace VmLauncher.Number.Integer

open Text

-- The mark for base sixteen with a digit behind it.
def HexAhead (text : List Char) : Prop :=
  ∃ x c d cs, text = '0' :: x :: c :: cs ∧ (x = 'x' ∨ x = 'X') ∧ WritesDigit 16 c d

-- The base that a text announces, and the text from which on its digits are looked for.
inductive Announces : List Char → Nat → List Char → Prop
  | hexadecimal {x : Char} {cs : List Char} (h : HexAhead ('0' :: x :: cs)) :
      Announces ('0' :: x :: cs) 16 cs
  | octal {cs : List Char} (h : ¬HexAhead ('0' :: cs)) : Announces ('0' :: cs) 8 ('0' :: cs)
  | decimal {cs : List Char} (h : cs.head? ≠ some '0') : Announces cs 10 cs

-- A number brought into the range of 64 bits, and whether it was outside of it.
def clamped (n : Int) (rest : List Char) : Reading :=
  ⟨max (-2 ^ 63) (min n (2 ^ 63 - 1)), n < -2 ^ 63 ∨ 2 ^ 63 - 1 < n, rest⟩

structure Parts where
  blanks : List Char
  sign : Option Char
  mark : List Char
  radix : Nat
  run : List Char
  digits : List Nat
  rest : List Char
deriving DecidableEq, Repr

namespace Parts

def unsigned (p : Parts) : List Char := p.mark ++ (p.run ++ p.rest)

-- As many blanks as there are, one sign at most, and as many digits as there are in the base
-- that what is behind the sign announces.
structure Cuts (p : Parts) (text : List Char) : Prop where
  joined : text = p.blanks ++ (p.sign.toList ++ p.unsigned)
  blanks : ∀ c ∈ p.blanks, isBlank c = true
  blanksEnd : ∀ c ∈ (p.sign.toList ++ p.unsigned).head?, isBlank c = false
  sign : (p.sign = none ∧ ∀ c ∈ p.unsigned.head?, c ≠ '+' ∧ c ≠ '-') ∨ p.sign = some '+' ∨
    p.sign = some '-'
  base : Announces p.unsigned p.radix (p.run ++ p.rest)
  digits : List.Forall₂ (WritesDigit p.radix) p.run p.digits
  digitsEnd : DigitsEnd p.radix p.rest

def magnitude (p : Parts) : Nat := Nat.ofDigits p.radix p.digits.reverse

-- The number without a bound.
def number (p : Parts) : Int := if p.sign = some '-' then -p.magnitude else p.magnitude

-- What should be read. Without a digit nothing is taken.
def reading (p : Parts) (text : List Char) : Reading :=
  if p.run = [] then ⟨0, false, text⟩ else clamped p.number p.rest

end Parts

section Base

variable {text cs : List Char} {radix : Nat}

theorem Announces.bounds (h : Announces text radix cs) : 1 ≤ radix ∧ radix ≤ 16 := by
  cases h <;> decide

theorem takeBase_of_hexAhead {x : Char} (h : HexAhead ('0' :: x :: cs)) :
    takeBase ('0' :: x :: cs) = (16, cs) := by
  obtain ⟨_, c, d, after, hcs, hx, hd⟩ := h
  obtain ⟨rfl, rfl⟩ := List.cons.inj (List.cons.inj hcs).2
  have hdigit : isDigit 16 c = true := (isDigit_iff (by decide) c).mpr ⟨d, hd⟩
  simp [takeBase, hx, hdigit]

theorem takeBase_of_octal (h : ¬HexAhead ('0' :: cs)) : takeBase ('0' :: cs) = (8, '0' :: cs) := by
  match cs with
  | [] | [_] => rfl
  | x :: c :: after =>
      have hno : ¬((x = 'x' ∨ x = 'X') ∧ isDigit 16 c = true) := by
        rintro ⟨hx, hc⟩
        obtain ⟨d, hd⟩ := (isDigit_iff (by decide) c).mp hc
        exact h ⟨x, c, d, after, rfl, hx, hd⟩
      simp [takeBase, hno]

theorem takeBase_of_head_ne (h : cs.head? ≠ some '0') : takeBase cs = (10, cs) := by
  unfold takeBase
  split <;> simp_all

theorem Announces.takeBase_eq (h : Announces text radix cs) : takeBase text = (radix, cs) := by
  cases h with
  | hexadecimal h => exact takeBase_of_hexAhead h
  | octal h => exact takeBase_of_octal h
  | decimal h => exact takeBase_of_head_ne h

theorem exists_announces (text : List Char) :
    ∃ mark radix cs, text = mark ++ cs ∧ Announces text radix cs := by
  by_cases hzero : text.head? = some '0'
  · obtain ⟨cs, rfl⟩ := List.head?_eq_some_iff.mp hzero
    by_cases hhex : HexAhead ('0' :: cs)
    · obtain ⟨x, c, d, after, hcs, -⟩ := id hhex
      obtain rfl := (List.cons.inj hcs).2
      exact ⟨['0', x], 16, c :: after, rfl, .hexadecimal hhex⟩
    · exact ⟨[], 8, '0' :: cs, rfl, .octal hhex⟩
  · exact ⟨[], 10, text, rfl, .decimal hzero⟩

end Base

theorem Parts.exists_cuts (text : List Char) : ∃ p : Parts, p.Cuts text := by
  obtain ⟨sign, unsigned, hsigned, hsign⟩ := exists_sign (text.dropWhile isBlank)
  obtain ⟨mark, radix, cs, hmark, hbase⟩ := exists_announces unsigned
  obtain ⟨run, digits, rest, rfl, hrun, hend⟩ := exists_run radix cs
  refine ⟨⟨text.takeWhile isBlank, sign, mark, radix, run, digits, rest⟩, ?_⟩
  have hunsigned : unsigned = mark ++ (run ++ rest) := hmark
  subst hunsigned
  refine ⟨?_, fun c => List.mem_takeWhile_imp, ?_, hsign, hbase, hrun, hend⟩
  · rw [Parts.unsigned, ← hsigned, List.takeWhile_append_dropWhile]
  · intro c hc
    rw [Parts.unsigned, ← hsigned] at hc
    have hstop := List.head?_dropWhile_not isBlank text
    rw [hc] at hstop
    simpa using hstop

-- Behind the limit no digit changes anything.
theorem accumulate_eq {radix : Nat} (hr : 1 ≤ radix) (ds : List Nat) :
    accumulate radix ds =
      (min magnitudeLimit (digitsValue radix ds), decide (magnitudeLimit < digitsValue radix ds)) := by
  induction ds using List.reverseRecOn with
  | nil => rfl
  | append_singleton ds d ih =>
      have hstep : accumulate radix (ds ++ [d]) =
          let next := (accumulate radix ds).1 * radix + d
          if magnitudeLimit < next then (magnitudeLimit, true)
          else (next, (accumulate radix ds).2) := by
        rw [accumulate, List.foldl_append]
        rfl
      rw [hstep, ih, digitsValue_append_singleton]
      generalize digitsValue radix ds = value
      rcases Nat.lt_or_ge magnitudeLimit value with hover | hunder
      · have hgrows : value ≤ value * radix := Nat.le_mul_of_pos_right _ hr
        have hstays : magnitudeLimit ≤ magnitudeLimit * radix := Nat.le_mul_of_pos_right _ hr
        have hstill : magnitudeLimit < value * radix + d := by omega
        simp only [Nat.min_eq_left hover.le, Nat.min_eq_left hstill.le, hover, hstill, decide_true]
        split_ifs with hnext
        · rfl
        · rw [show magnitudeLimit * radix + d = magnitudeLimit by omega]
      · simp only [Nat.min_eq_right hunder, Nat.not_lt.mpr hunder, decide_false]
        split_ifs with hnext
        · simp [Nat.min_eq_left hnext.le, hnext]
        · simp [Nat.min_eq_right (Nat.not_lt.mp hnext), hnext]

-- A magnitude at the limit is in range only under a minus.
theorem clamped_neg (n : Nat) (rest : List Char) :
    clamped (-n) rest = ⟨-(min magnitudeLimit n : Nat), decide (magnitudeLimit < n), rest⟩ := by
  have hlimit : magnitudeLimit = 2 ^ 63 := rfl
  simp only [clamped, hlimit, Reading.mk.injEq, decide_eq_decide, and_true]
  omega

theorem clamped_natCast (n : Nat) (rest : List Char) :
    clamped n rest =
      if maxValue < (min magnitudeLimit n : Nat) then ⟨maxValue, true, rest⟩
      else ⟨(min magnitudeLimit n : Nat), decide (magnitudeLimit < n), rest⟩ := by
  have hlimit : magnitudeLimit = 2 ^ 63 := rfl
  have hmax : maxValue = 2 ^ 63 - 1 := rfl
  simp only [hlimit, hmax]
  split_ifs with hbelow
  · simp only [clamped, Reading.mk.injEq, decide_eq_true_eq, and_true]
    omega
  · simp only [clamped, Reading.mk.injEq, decide_eq_decide, and_true]
    omega

namespace Parts

variable {p : Parts} {text : List Char}

theorem Cuts.dropWhile_isBlank (h : p.Cuts text) :
    text.dropWhile isBlank = p.sign.toList ++ p.unsigned := by
  rw [h.joined, List.dropWhile_append_of_pos h.blanks]
  rcases hcs : p.sign.toList ++ p.unsigned with _ | ⟨c, cs⟩
  · rfl
  · have hc : isBlank c = false := h.blanksEnd c (by rw [hcs]; rfl)
    simp [hc]

theorem Cuts.isEmpty_digits (h : p.Cuts text) : p.digits.isEmpty = decide (p.run = []) := by
  have hdigits := h.digits
  generalize p.run = run, p.digits = ds at hdigits ⊢
  cases hdigits <;> rfl

-- However the text is parted by these rules, this is what reading it gives.
theorem Cuts.read_eq (h : p.Cuts text) : read text = p.reading text := by
  obtain ⟨hone, hsixteen⟩ := h.base.bounds
  have hdigits : takeDigits p.radix (p.run ++ p.rest) = (p.digits, p.rest) :=
    takeDigits_append hsixteen h.digits h.digitsEnd
  have hvalue : digitsValue p.radix p.digits = p.magnitude := digitsValue_eq_ofDigits _ _
  simp only [read, h.dropWhile_isBlank, takeSign_cons h.sign, h.base.takeBase_eq, hdigits,
    accumulate_eq hone, hvalue, h.isEmpty_digits, decide_eq_true_eq, reading, number]
  by_cases hrun : p.run = []
  · simp only [hrun, if_true]
  · by_cases hsign : p.sign = some '-'
    · have hbelow : ¬maxValue < -(min magnitudeLimit p.magnitude : Nat) := by
        have hmax : (0 : Int) ≤ maxValue := by decide
        omega
      simp only [hrun, hsign, hbelow, if_true, if_false, clamped_neg]
    · simp only [hrun, hsign, if_false, clamped_natCast]

end Parts

section Bytes

variable {text cs : List Char} {radix : Nat}

theorem HexAhead.ascii {x : Char} (h : HexAhead ('0' :: x :: cs)) : x.toNat < 128 := by
  obtain ⟨_, _, _, _, hcs, rfl | rfl, -⟩ := h
  · obtain rfl := (List.cons.inj (List.cons.inj hcs).2).1
    decide
  · obtain rfl := (List.cons.inj (List.cons.inj hcs).2).1
    decide

theorem hexAhead_bytewise_iff (cs : List Char) : HexAhead ('0' :: bytewise cs) ↔ HexAhead ('0' :: cs) := by
  constructor
  · rintro ⟨x, c, d, after, hcs, hx, hd⟩
    have hmark : x.toNat < 128 := by rcases hx with rfl | rfl <;> decide
    obtain ⟨behind, rfl, hbehind⟩ := bytewise_eq_cons hmark (List.cons.inj hcs).2
    obtain ⟨rest, rfl, -⟩ := bytewise_eq_cons (hd.ascii (by decide)) hbehind.symm
    exact ⟨x, c, d, rest, rfl, hx, hd⟩
  · rintro ⟨x, c, d, after, hcs, hx, hd⟩
    have hmark : x.toNat < 128 := by rcases hx with rfl | rfl <;> decide
    obtain rfl := (List.cons.inj hcs).2
    rw [bytewise_cons_ascii hmark, bytewise_cons_ascii (hd.ascii (by decide))]
    exact ⟨x, c, d, bytewise after, rfl, hx, hd⟩

theorem Announces.bytewise (h : Announces text radix cs) :
    Announces (bytewise text) radix (bytewise cs) := by
  cases h with
  | @hexadecimal x _ h =>
      have hahead := (hexAhead_bytewise_iff _).mpr h
      rw [bytewise_cons_ascii h.ascii] at hahead
      rw [bytewise_cons_ascii (by decide), bytewise_cons_ascii h.ascii]
      exact .hexadecimal hahead
  | octal h =>
      rw [bytewise_cons_ascii (by decide)]
      exact .octal ((hexAhead_bytewise_iff _).not.mpr h)
  | decimal h =>
      refine .decimal fun hzero => ?_
      obtain ⟨rest, hrest⟩ := List.head?_eq_some_iff.mp hzero
      obtain ⟨after, rfl, -⟩ := bytewise_eq_cons (by decide) hrest
      exact h rfl

theorem Announces.mark_ascii {mark : List Char} (h : Announces (mark ++ cs) radix cs) :
    ∀ c ∈ mark, c.toNat < 128 := by
  generalize htext : mark ++ cs = text at h
  cases h with
  | @hexadecimal x _ h =>
      obtain rfl : mark = ['0', x] := List.append_cancel_right htext
      simp [h.ascii]
  | octal | decimal =>
      obtain rfl : mark = [] := List.append_left_eq_self.mp htext
      simp

end Bytes

namespace Parts

variable {p : Parts} {text : List Char}

-- Only what is left of the text can have characters of several bytes.
def bytewise (p : Parts) : Parts := { p with rest := Text.bytewise p.rest }

theorem Cuts.run_ascii (h : p.Cuts text) : ∀ c ∈ p.run, c.toNat < 128 := fun c hc =>
  ascii_of_isDigit h.base.bounds.2 (isDigit_of_run h.base.bounds.2 h.digits c hc)

theorem Cuts.sign_ascii (h : p.Cuts text) : ∀ c ∈ p.sign.toList, c.toNat < 128 :=
  IsSign.ascii (h.sign.imp_left And.left)

theorem Cuts.unsigned_bytewise (h : p.Cuts text) :
    p.bytewise.unsigned = Text.bytewise p.unsigned := by
  rw [unsigned, unsigned, bytewise_append_ascii h.base.mark_ascii, bytewise_append_ascii h.run_ascii]
  rfl

theorem Cuts.bytewise (h : p.Cuts text) : p.bytewise.Cuts (Text.bytewise text) := by
  have hsigned : p.sign.toList ++ p.bytewise.unsigned =
      Text.bytewise (p.sign.toList ++ p.unsigned) := by
    rw [bytewise_append_ascii h.sign_ascii, h.unsigned_bytewise]
  have hbase := h.base.bytewise
  rw [bytewise_append_ascii h.run_ascii, ← h.unsigned_bytewise] at hbase
  refine ⟨?_, h.blanks, ?_, ?_, hbase, h.digits, ?_⟩
  · change Text.bytewise text = p.blanks ++ (p.sign.toList ++ p.bytewise.unsigned)
    rw [hsigned, ← bytewise_append_ascii fun c hc => ascii_of_isBlank (h.blanks c hc), ← h.joined]
  · change ∀ c ∈ (p.sign.toList ++ p.bytewise.unsigned).head?, isBlank c = false
    rw [hsigned]
    exact head_bytewise (fun c hc => ascii_of_isBlank (by simpa using hc)) h.blanksEnd
  · rcases h.sign with ⟨hnone, hunsigned⟩ | hsign
    · refine .inl ⟨hnone, ?_⟩
      rw [h.unsigned_bytewise]
      refine head_bytewise (fun c hc => ?_) hunsigned
      rcases not_and_or.mp hc with hplus | hminus
      · rw [not_ne_iff.mp hplus]
        decide
      · rw [not_ne_iff.mp hminus]
        decide
    · exact .inr hsign
  · refine head_bytewise (fun c hc => ?_) h.digitsEnd
    obtain ⟨d, hd⟩ := not_forall_not.mp hc
    exact hd.ascii h.base.bounds.2

theorem reading_bytewise (p : Parts) (text : List Char) :
    p.bytewise.reading (Text.bytewise text) =
      { p.reading text with rest := Text.bytewise (p.reading text).rest } := by
  have hrun : p.bytewise.run = p.run := rfl
  have hnumber : p.bytewise.number = p.number := rfl
  by_cases hnone : p.run = []
  · simp only [reading, hrun, hnone, if_true]
  · simp only [reading, hrun, hnumber, hnone, if_false]
    rfl

theorem Cuts.suffix (h : p.Cuts text) : (p.reading text).rest <:+ text := by
  by_cases hnone : p.run = []
  · simp only [reading, hnone, if_true]
    exact List.suffix_rfl
  · refine ⟨p.blanks ++ (p.sign.toList ++ (p.mark ++ p.run)), ?_⟩
    simp only [reading, hnone, if_false, clamped, h.joined, unsigned, List.append_assoc]

end Parts

-- A text of any length is parted in such a way, and whichever way it is, that is how it reads.
-- What is left is a text again: read byte by byte, the same number is found, and what is left
-- are the bytes of the same characters.
theorem read_exact (s : String) :
    (∃ p : Parts, p.Cuts s.toList) ∧
      (∀ p : Parts, p.Cuts s.toList → read s.toList = p.reading s.toList) ∧
      (read s.toList).rest <:+ s.toList ∧
      read (byteChars (utf8 s)) =
        { read s.toList with
          rest := byteChars (utf8 (String.ofList (read s.toList).rest)) } := by
  obtain ⟨p, hp⟩ := Parts.exists_cuts s.toList
  have hbytes : byteChars (utf8 s) = bytewise s.toList := by rw [bytewise, String.ofList_toList]
  refine ⟨⟨p, hp⟩, fun q hq => hq.read_eq, ?_, ?_⟩
  · rw [hp.read_eq]
    exact hp.suffix
  · rw [hbytes, hp.bytewise.read_eq, Parts.reading_bytewise, ← hp.read_eq]
    rfl

-- The least number is in range, with digits of one case and a mark of the other.
example : read "\t-0X8000000000000000é".toList = ⟨-2 ^ 63, false, ['é']⟩ := by decide +kernel

end VmLauncher.Number.Integer
