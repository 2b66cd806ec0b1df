import VmLauncher.Number.Level
import VmLauncher.Proofs.Number.WholeNumbers
-- Which texts are levels, why the others are none, and which of them are taken for one.
namespace VmLauncher.Number

open Integer (Parts)

def Blank (text : String) : Prop := ∀ c ∈ text.toList, Text.isWhiteSpace c = true

-- What a text is as a level, once it is parted. The number comes first: only behind one that is
-- in range does it matter what follows.
inductive Integer.Parts.Judged (p : Parts) (text : String) : Except LevelError Nat → Prop
  | level (hdigit : p.run ≠ []) (hlow : 0 ≤ p.number) (hhigh : p.number ≤ 2 ^ 31 - 1)
      (hrest : ∀ c ∈ p.rest, Text.isWhiteSpace c = true) : Judged p text (.ok p.number.toNat)
  | negative (hdigit : p.run ≠ []) (hlow : p.number < 0) : Judged p text (.error .negative)
  | tooBig (hdigit : p.run ≠ []) (hhigh : 2 ^ 31 - 1 < p.number) : Judged p text (.error .tooBig)
  | trailing (hdigit : p.run ≠ []) (hlow : 0 ≤ p.number) (hhigh : p.number ≤ 2 ^ 31 - 1)
      (hrest : ¬∀ c ∈ p.rest, Text.isWhiteSpace c = true) :
      Judged p text (.error (.notANumber text))
  | missing (hdigit : p.run = []) : Judged p text (.error (.notANumber text))

def LevelVerdict (text : String) (verdict : Except LevelError Nat) : Prop :=
  ∃ p : Parts, p.Cuts text.toList ∧ p.Judged text verdict

-- A text without a number is taken for zero if there is nothing in it to complain about.
inductive LevelTaken (text : String) : Except LevelError Nat → Prop
  | blank (h : Blank text) : LevelTaken text (.ok 0)
  | judged {verdict : Except LevelError Nat} (h : ¬Blank text) (hv : LevelVerdict text verdict) :
      LevelTaken text verdict

section Verdict

variable {text : String} {p : Parts} {verdict : Except LevelError Nat}

theorem Integer.Parts.exists_judged (p : Parts) (text : String) : ∃ verdict, p.Judged text verdict := by
  by_cases hdigit : p.run = []
  · exact ⟨_, .missing hdigit⟩
  · by_cases hlow : p.number < 0
    · exact ⟨_, .negative hdigit hlow⟩
    · by_cases hhigh : 2 ^ 31 - 1 < p.number
      · exact ⟨_, .tooBig hdigit hhigh⟩
      · by_cases hrest : ∀ c ∈ p.rest, Text.isWhiteSpace c = true
        · exact ⟨_, .level hdigit (by omega) (by omega) hrest⟩
        · exact ⟨_, .trailing hdigit (by omega) (by omega) hrest⟩

theorem not_isWhiteSpace_of_isDigit {radix : Nat} (hr : radix ≤ 16) {c : Char}
    (h : Text.isDigit radix c = true) : Text.isWhiteSpace c = false := by
  obtain ⟨d, hd⟩ := (Text.isDigit_iff hr c).mp h
  exact hd.of_forall (P := (Text.isWhiteSpace · = false)) (by decide) hr

theorem run_eq_nil_of_blank (hp : p.Cuts text.toList) (h : Blank text) : p.run = [] := by
  by_contra hne
  obtain ⟨c, run, hrun⟩ := List.exists_cons_of_ne_nil hne
  have hc : c ∈ p.run := by simp [hrun]
  have hr := hp.base.bounds.2
  have hdigit := not_isWhiteSpace_of_isDigit hr (Text.isDigit_of_run hr hp.digits c hc)
  have hwhite : Text.isWhiteSpace c = true := by
    refine h c ?_
    rw [hp.joined, Parts.unsigned]
    simp [hc]
  rw [hdigit] at hwhite
  contradiction

theorem readLevel_of_blank (h : Blank text) : readLevel text = .ok 0 := by
  obtain ⟨p, hp⟩ := Parts.exists_cuts text.toList
  have hall : text.toList.all Text.isWhiteSpace = true := List.all_eq_true.mpr h
  have hlimit : ¬levelLimit < 0 := by decide
  simp [readLevel, hp.read_eq, Parts.reading, run_eq_nil_of_blank hp h, hall, hlimit]

-- A number that 64 bits cannot hold is not brought into the range of a level either.
theorem readLevel_of_digits (hp : p.Cuts text.toList) (hdigit : p.run ≠ []) :
    readLevel text =
      if p.number < 0 then .error .negative
      else if 2 ^ 31 - 1 < p.number then .error .tooBig
      else if p.rest.all Text.isWhiteSpace then .ok p.number.toNat
      else .error (.notANumber text) := by
  have hlimit : levelLimit = 2 ^ 31 - 1 := rfl
  simp only [readLevel, hp.read_eq, Parts.reading, hdigit, if_false, Integer.clamped, hlimit]
  by_cases hlow : p.number < 0
  · have hvalue : max (-2 ^ 63) (min p.number (2 ^ 63 - 1)) < 0 := by omega
    simp only [hlow, hvalue, if_true]
  · have hvalue : ¬max (-2 ^ 63) (min p.number (2 ^ 63 - 1)) < 0 := by omega
    simp only [hlow, hvalue, if_false]
    by_cases hhigh : 2 ^ 31 - 1 < p.number
    · have hvalue : 2 ^ 31 - 1 < max (-2 ^ 63) (min p.number (2 ^ 63 - 1)) := by omega
      simp only [hhigh, hvalue, decide_true, Bool.or_true, if_true]
    · have hsame : max (-2 ^ 63) (min p.number (2 ^ 63 - 1)) = p.number := by omega
      have hin : ¬(p.number < -2 ^ 63 ∨ 2 ^ 63 - 1 < p.number) := by omega
      simp only [hsame, hin, hhigh, decide_false, Bool.or_false, Bool.false_eq_true, if_false]

theorem readLevel_of_judged (hp : p.Cuts text.toList) (hblank : ¬Blank text)
    (h : p.Judged text verdict) : readLevel text = verdict := by
  cases h with
  | level hdigit hlow hhigh hrest =>
      rw [readLevel_of_digits hp hdigit, if_neg hlow.not_gt, if_neg hhigh.not_gt,
        if_pos (List.all_eq_true.mpr hrest)]
  | negative hdigit hlow => rw [readLevel_of_digits hp hdigit, if_pos hlow]
  | tooBig hdigit hhigh =>
      have hlow : ¬p.number < 0 := by omega
      rw [readLevel_of_digits hp hdigit, if_neg hlow, if_pos hhigh]
  | trailing hdigit hlow hhigh hrest =>
      rw [readLevel_of_digits hp hdigit, if_neg hlow.not_gt, if_neg hhigh.not_gt,
        if_neg (List.all_eq_true.not.mpr hrest)]
  | missing hdigit =>
      have hsome : ¬text.toList.all Text.isWhiteSpace = true := List.all_eq_true.not.mpr hblank
      have hlimit : ¬levelLimit < 0 := by decide
      simp [readLevel, hp.read_eq, Parts.reading, hdigit, hsome, hlimit]

theorem readLevel_eq_iff (text : String) (verdict : Except LevelError Nat) :
    readLevel text = verdict ↔ LevelTaken text verdict := by
  constructor
  · rintro rfl
    by_cases hblank : Blank text
    · rw [readLevel_of_blank hblank]
      exact .blank hblank
    · obtain ⟨p, hp⟩ := Parts.exists_cuts text.toList
      obtain ⟨verdict, hv⟩ := p.exists_judged text
      rw [readLevel_of_judged hp hblank hv]
      exact .judged hblank ⟨p, hp, hv⟩
  · intro h
    cases h with
    | blank hblank => exact readLevel_of_blank hblank
    | judged hblank hv =>
        obtain ⟨p, hp, hv⟩ := hv
        exact readLevel_of_judged hp hblank hv

theorem levelVerdict_of_blank (h : Blank text) :
    LevelVerdict text verdict ↔ verdict = .error (.notANumber text) := by
  constructor
  · rintro ⟨p, hp, hv⟩
    have hrun := run_eq_nil_of_blank hp h
    cases hv with
    | missing => rfl
    | level hdigit | negative hdigit | tooBig hdigit | trailing hdigit => contradiction
  · rintro rfl
    obtain ⟨p, hp⟩ := Parts.exists_cuts text.toList
    exact ⟨p, hp, .missing (run_eq_nil_of_blank hp h)⟩

-- However a text is parted, the verdict is the same.
theorem existsUnique_levelVerdict (text : String) : ∃! verdict, LevelVerdict text verdict := by
  by_cases hblank : Blank text
  · exact ⟨_, (levelVerdict_of_blank hblank).mpr rfl, fun _ => (levelVerdict_of_blank hblank).mp⟩
  · obtain ⟨p, hp⟩ := Parts.exists_cuts text.toList
    obtain ⟨verdict, hv⟩ := p.exists_judged text
    refine ⟨verdict, ⟨p, hp, hv⟩, ?_⟩
    rintro other ⟨q, hq, ho⟩
    exact (readLevel_of_judged hq hblank ho).symm.trans (readLevel_of_judged hp hblank hv)

end Verdict

end VmLauncher.Number
