import VmLauncher.Proofs.Memory.Coherence
import VmLauncher.Proofs.Memory.Notes
import VmLauncher.Proofs.Number.Indeterminate
import VmLauncher.Proofs.Number.LongestMatch
import VmLauncher.Proofs.Text.Utf8
-- Why a size is refused: every reason excludes the ones behind it, and only a note that could not
-- be written leaves a trace.
namespace VmLauncher

open Number (IsLiteral Literal split?)

namespace Number

-- The literal at the front of a text is the longest one there, and this is what stands behind it.
def Opens (text : String) (l : Literal) (rest : String) : Prop :=
  ∃ letters, text.toList = letters ++ rest.toList ∧ Literal.IsLongest text.toList letters ∧
    l.WrittenAs letters

variable {text rest : String} {l : Literal}

theorem opens_iff : Opens text l rest ↔ Literal.scan? text.toList = some (l, rest.toList) :=
  (Literal.scan?_eq_some_iff _ _ _).symm

theorem Opens.split? (h : Opens text l rest) : split? text = some (l.value, rest) := by
  simp only [Number.split?, opens_iff.mp h, Option.map_some, String.ofList_toList]

theorem Opens.unique {other : Literal} {behind : String} (h : Opens text l rest)
    (ho : Opens text other behind) : other = l ∧ behind = rest := by
  have hsame := (opens_iff.mp ho).symm.trans (opens_iff.mp h)
  obtain ⟨hl, hrest⟩ := Prod.mk.inj (Option.some.inj hsame)
  exact ⟨hl, String.toList_inj.mp hrest⟩

theorem Opens.isNaN_value (h : Opens text l rest) : l.value.isNaN = true ↔ l.Indeterminate := by
  obtain ⟨letters, -, -, hl⟩ := h
  exact hl.isNaN_value

-- There is a literal at the front of a text, or nothing is split off.
theorem opens_or_not (text : String) : (∃ l rest, Opens text l rest) ∨
    (∀ letters, letters <+: text.toList → ¬IsLiteral letters) ∧ Number.split? text = none := by
  rcases hscan : Literal.scan? text.toList with _ | ⟨l, rest⟩
  · refine .inr ⟨(Literal.scan?_eq_none_iff _).mp hscan, ?_⟩
    rw [Number.split?, hscan, Option.map_none]
  · refine .inl ⟨l, String.ofList rest, opens_iff.mpr ?_⟩
    rw [hscan, String.toList_ofList]

theorem Opens.exists_literal (h : Opens text l rest) :
    ¬∀ letters, letters <+: text.toList → ¬IsLiteral letters := by
  obtain ⟨letters, htext, -, hl⟩ := h
  exact fun hnone => hnone letters ⟨rest.toList, htext.symm⟩ ⟨l, hl⟩

-- What counts as a zero: both zeros, and what is no number.
def Literal.StandsForNothing (l : Literal) : Prop := l.value.isZero = true ∨ l.Indeterminate

theorem Opens.standsForNothing_iff (h : Opens text l rest) :
    l.StandsForNothing ↔ (l.value.isZero || l.value.isNaN) = true := by
  rw [Bool.or_eq_true, h.isNaN_value, Literal.StandsForNothing]

end Number

namespace Host.Console

variable {c : Console} {text : String}

theorem accepted_of_write (h : (c.write text).1 = .ok ()) :
    (c.write text).2.accepted = c.accepted ++ Text.utf8 text := by
  unfold write writeBytes at h ⊢
  split
  · rfl
  · next room hroom =>
      split_ifs with hfits
      · rfl
      · simp [hroom, hfits] at h

-- What has been written as a whole is seen.
theorem write_ne_self (htext : text ≠ "") (h : (c.write text).1 = .ok ()) :
    (c.write text).2 ≠ c := by
  have hempty : Text.utf8 "" = [] := by
    rw [Text.utf8_eq_data]
    rfl
  intro hsame
  have haccepted := accepted_of_write h
  rw [hsame, List.self_eq_append_right, ← hempty] at haccepted
  have hback := Text.ofUtf8?_utf8 text
  rw [haccepted, Text.ofUtf8?_utf8] at hback
  exact htext (Option.some.inj hback).symm

end Host.Console

namespace Memory

open Host (Console Scene)
open Number (Opens)

def SizeUnit.texts : List String := ["", "pages", "k", "K", "m", "M", "g", "G"]

theorem SizeUnit.ofText?_eq_none_iff (text : String) : ofText? text = none ↔ text ∉ texts := by
  unfold ofText?
  split_ifs with hbytes hpages hkilo hmega hgiga
  · simp [texts, hbytes]
  · simp [texts, hpages]
  · rcases hkilo with rfl | rfl <;> simp [texts]
  · rcases hmega with rfl | rfl <;> simp [texts]
  · rcases hgiga with rfl | rfl <;> simp [texts]
  · simp only [not_or] at hkilo hmega hgiga
    simp [texts, hbytes, hpages, hkilo, hmega, hgiga]

namespace SizeSpec

variable {spec : SizeSpec} {token subtoken rest : String} {l : Literal}

-- The checks behind the literal, each after the ones before it have passed.
inductive Checked (spec : SizeSpec) (token subtoken : String) (l : Literal) (rest : String) :
    Except SizeError Measure → Prop
  | unknownUnit (hunit : rest ∉ SizeUnit.texts) :
      Checked spec token subtoken l rest (.error (.unknownUnit token rest))
  | negative (hunit : rest ∈ SizeUnit.texts) (hnegative : l.value.lt (.zero false) = true) :
      Checked spec token subtoken l rest (.error (.negative spec.name))
  | zero (hunit : rest ∈ SizeUnit.texts) (hnegative : l.value.lt (.zero false) = false)
      (hzero : l.StandsForNothing) : Checked spec token subtoken l rest (.error (.zero spec.name))
  | outOfRange (hunit : rest ∈ SizeUnit.texts) (hnegative : l.value.lt (.zero false) = false)
      (hzero : ¬l.StandsForNothing) :
      Checked spec token subtoken l rest (.error (.outOfRange subtoken))
  | kept {unit : SizeUnit} {m : Measure} (hunit : SizeUnit.ofText? rest = some unit)
      (hnegative : l.value.lt (.zero false) = false) (hzero : ¬l.StandsForNothing)
      (h : spec.round? l.value unit = some m) : Checked spec token subtoken l rest (.ok m)

theorem mem_texts_of_ofText? {unit : SizeUnit} (h : SizeUnit.ofText? rest = some unit) :
    rest ∈ SizeUnit.texts := by
  by_contra hforeign
  rw [(SizeUnit.ofText?_eq_none_iff rest).mpr hforeign] at h
  contradiction

theorem measure_checked (h : Opens subtoken l rest) (spec : SizeSpec) (token : String) :
    Checked spec token subtoken l rest (spec.measure token subtoken) := by
  rcases hunit : SizeUnit.ofText? rest with _ | unit
  · simp only [measure, h.split?, hunit]
    exact .unknownUnit ((SizeUnit.ofText?_eq_none_iff rest).mp hunit)
  have hknown := mem_texts_of_ofText? hunit
  simp only [measure, h.split?, hunit]
  split_ifs with hnegative hzero
  · exact .negative hknown hnegative
  · exact .zero hknown (by simpa using hnegative) (h.standsForNothing_iff.mpr hzero)
  · rw [← h.standsForNothing_iff] at hzero
    rw [Bool.not_eq_true] at hnegative
    rcases hround : spec.round? l.value unit with _ | m
    · exact .outOfRange hknown hnegative hzero
    · exact .kept hunit hnegative hzero hround

-- Before it is rounded up, the size is no multiple yet.
def NoteDue (spec : SizeSpec) (subtoken : String) : Prop :=
  ∃ l rest unit, Opens subtoken l rest ∧ SizeUnit.ofText? rest = some unit ∧
    ¬spec.multiple ∣ (spec.bytes l.value unit).toNat

-- What the user may rely on where a subtoken starts with a literal.
structure RefusedInOrder (spec : SizeSpec) (token subtoken : String) (l : Literal) (rest : String)
    (answer : Except SizeError Nat) : Prop where
  unknownUnit : answer = .error (.unknownUnit token rest) ↔ rest ∉ SizeUnit.texts
  negative : answer = .error (.negative spec.name) ↔
    rest ∈ SizeUnit.texts ∧ l.value.lt (.zero false) = true
  zero : answer = .error (.zero spec.name) ↔
    rest ∈ SizeUnit.texts ∧ l.value.lt (.zero false) = false ∧ l.StandsForNothing
  otherwise : rest ∈ SizeUnit.texts → l.value.lt (.zero false) = false → ¬l.StandsForNothing →
    answer = .error (.outOfRange subtoken) ∨ (∃ source, answer = .error (.console source)) ∨
      ∃ bytes, answer = .ok bytes

theorem parse_refusedInOrder (h : Opens subtoken l rest) (spec : SizeSpec) (token program : String)
    (scene : Scene) :
    RefusedInOrder spec token subtoken l rest (spec.parse token subtoken program scene).1 := by
  have hchecked := measure_checked h spec token
  generalize hmeasure : spec.measure token subtoken = measured at hchecked
  cases hchecked with
  | unknownUnit hunit =>
      rw [parse_of_error hmeasure]
      constructor <;> simp [hunit]
  | negative hunit hnegative =>
      rw [parse_of_error hmeasure]
      constructor <;> simp [hunit, hnegative]
  | zero hunit hnegative hzero =>
      rw [parse_of_error hmeasure]
      constructor <;> simp [hunit, hnegative, hzero]
  | outOfRange hunit hnegative hzero =>
      rw [parse_of_error hmeasure]
      constructor <;> simp [hunit, hnegative, hzero]
  | @kept unit m hunit hnegative hzero =>
      have hknown := mem_texts_of_ofText? hunit
      rcases parse_cases hmeasure program scene with hok | ⟨e, he⟩
      · rw [hok]
        constructor <;> simp [hknown, hnegative, hzero]
      · rw [he]
        constructor <;> simp [hknown, hnegative, hzero]

theorem measure_refuses {e : SizeError} (h : spec.measure token subtoken = .error e) :
    e.kind ≠ .console := by
  rcases Number.opens_or_not subtoken with ⟨l, rest, hopens⟩ | ⟨-, hsplit⟩
  · have hchecked := measure_checked hopens spec token
    rw [h] at hchecked
    cases hchecked <;> simp [SizeError.kind]
  · simp only [measure, hsplit, Except.error.injEq] at h
    rw [← h]
    simp [SizeError.kind]

theorem noteDue_iff {m : Measure} (h : spec.measure token subtoken = .ok m) :
    spec.NoteDue subtoken ↔ m.rounded ≠ m.total := by
  rcases Number.opens_or_not subtoken with ⟨l, rest, hopens⟩ | ⟨-, hsplit⟩
  · have hchecked := measure_checked hopens spec token
    rw [h] at hchecked
    cases hchecked with
    | @kept unit _ hunit _ _ hround =>
        obtain ⟨-, -, -, -, rfl⟩ := round?_eq_some_iff.mp hround
        rw [ne_eq, roundedUp_eq_self_iff]
        constructor
        · rintro ⟨other, behind, unit', ho, hunit', hdue⟩
          obtain ⟨rfl, rfl⟩ := hopens.unique ho
          obtain rfl := Option.some.inj (hunit.symm.trans hunit')
          exact hdue
        · exact fun hdue => ⟨l, rest, unit, hopens, hunit, hdue⟩
  · simp [measure, hsplit] at h

theorem measure_dvd {m : Measure} (h : spec.measure token subtoken = .ok m) :
    spec.multiple ∣ m.rounded := by
  obtain ⟨_, _, _, -, -, -, -, hround⟩ := measure_eq_ok h
  obtain ⟨-, -, -, -, rfl⟩ := round?_eq_some_iff.mp hround
  exact spec.dvd_roundedUp _

theorem roundingNote_ne_empty (spec : SizeSpec) (program : String) (m : Measure) :
    spec.roundingNote program m ≠ "" := by
  intro h
  have hlength := congrArg String.length h
  simp [roundingNote] at hlength

-- The note stands on the console exactly if there was one to be made.
theorem parse_ok {bytes : Nat} {program : String} {scene : Scene}
    (h : (spec.parse token subtoken program scene).1 = .ok bytes) :
    spec.multiple ∣ bytes ∧
      ((spec.parse token subtoken program scene).2.console = scene.console ↔
        ¬spec.NoteDue subtoken) := by
  rcases hmeasure : spec.measure token subtoken with e | m
  · rw [parse_of_error hmeasure] at h
    contradiction
  have hdue := noteDue_iff hmeasure
  have hdvd := measure_dvd hmeasure
  by_cases hwhole : m.rounded = m.total
  · rw [parse_of_whole hmeasure hwhole] at h ⊢
    obtain rfl := Except.ok.inj h
    exact ⟨hdvd, by simp [hdue, hwhole]⟩
  · obtain ⟨hconsole, hanswer⟩ := parse_of_rounded hmeasure hwhole program scene
    rw [hanswer] at h
    rw [hconsole]
    rcases hwritten : (scene.console.write (spec.roundingNote program m)).1 with e | _
    · simp [hwritten] at h
    · simp only [hwritten, Except.ok.injEq] at h
      have hseen := Console.write_ne_self (spec.roundingNote_ne_empty program m) hwritten
      exact ⟨h ▸ hdvd, by simp [hseen, hdue, hwhole]⟩

theorem parse_error {e : SizeError} {program : String} {scene : Scene}
    (h : (spec.parse token subtoken program scene).1 = .error e) :
    spec.measure token subtoken = .error e ∧
        (spec.parse token subtoken program scene).2 = scene ∨
      (∃ source, e = .console source) ∧ spec.NoteDue subtoken := by
  rcases hmeasure : spec.measure token subtoken with e' | m
  · rw [parse_of_error hmeasure] at h ⊢
    obtain rfl := Except.error.inj h
    exact .inl ⟨rfl, rfl⟩
  · by_cases hwhole : m.rounded = m.total
    · rw [parse_of_whole hmeasure hwhole] at h
      contradiction
    · rcases parse_cases hmeasure program scene with hok | ⟨source, hsource⟩
      · rw [hok] at h
        contradiction
      · rw [hsource] at h
        exact .inr ⟨⟨source, (Except.error.inj h).symm⟩, (noteDue_iff hmeasure).mpr hwhole⟩

theorem parse_notANumber_iff (spec : SizeSpec) (token subtoken program : String) (scene : Scene) :
    (spec.parse token subtoken program scene).1 = .error (.notANumber token spec.flag) ↔
      ∀ letters, letters <+: subtoken.toList → ¬IsLiteral letters := by
  rcases Number.opens_or_not subtoken with ⟨l, rest, hopens⟩ | ⟨hnone, hsplit⟩
  · refine iff_of_false (fun h => ?_) hopens.exists_literal
    have hchecked := measure_checked hopens spec token
    rcases parse_error h with ⟨hmeasure, -⟩ | ⟨⟨source, hsource⟩, -⟩
    · rw [hmeasure] at hchecked
      cases hchecked
    · cases hsource
  · have hmeasure : spec.measure token subtoken = .error (.notANumber token spec.flag) := by
      simp only [measure, hsplit]
    rw [parse_of_error hmeasure]
    exact iff_of_true rfl hnone

-- For any text: what is refused is refused for the first reason that there is, and without a word.
-- A size is kept as a multiple, and the note is on the console exactly if rounding was needed; only
-- then can the console fail.
theorem size_refusals (spec : SizeSpec) (token subtoken program : String) (scene : Scene) :
    let answer := spec.parse token subtoken program scene
    (answer.1 = .error (.notANumber token spec.flag) ↔
      ∀ letters, letters <+: subtoken.toList → ¬IsLiteral letters) ∧
    (∀ l rest, Opens subtoken l rest → RefusedInOrder spec token subtoken l rest answer.1) ∧
    (∀ e, answer.1 = .error e → e.kind ≠ .console → answer.2 = scene) ∧
    (∀ source, answer.1 = .error (.console source) → spec.NoteDue subtoken) ∧
    ∀ bytes, answer.1 = .ok bytes → max spec.roundTo 1 ∣ bytes ∧
      (answer.2.console = scene.console ↔ ¬spec.NoteDue subtoken) := by
  intro answer
  refine ⟨parse_notANumber_iff spec token subtoken program scene,
    fun l rest h => parse_refusedInOrder h spec token program scene, ?_, ?_,
    fun bytes h => parse_ok h⟩
  · intro e he hkind
    rcases parse_error he with ⟨-, hscene⟩ | ⟨⟨source, rfl⟩, -⟩
    · exact hscene
    · exact absurd rfl hkind
  · intro source hsource
    rcases parse_error hsource with ⟨hmeasure, -⟩ | ⟨-, hdue⟩
    · exact absurd rfl (measure_refuses hmeasure)
    · exact hdue

-- One, with so many zeros that the digits add up to more than can be held, and with an exponent
-- that takes all of them back: no number is made of it, and not for want of a digit.
def takenBack : Literal :=
  ⟨false, .hexadecimal, 1 :: List.replicate 256 0, [], some ⟨true, [1, 0, 2, 4]⟩⟩

def takenBackText : String :=
  String.ofList ("0x1".toList ++ List.replicate 256 '0' ++ "p-1024".toList)

theorem takenBack_opens : Opens takenBackText takenBack "" := by
  have hscan : Literal.scan? ("0x1".toList ++ List.replicate 256 '0' ++ "p-1024".toList) =
      some (takenBack, "".toList) := by decide +kernel
  have htext : takenBackText.toList =
      "0x1".toList ++ List.replicate 256 '0' ++ "p-1024".toList := String.toList_ofList
  exact Number.opens_iff.mpr ((congrArg Literal.scan? htext).trans hscan)

theorem takenBack_mantissa : takenBack.mantissa = .infinity false :=
  Literal.hexWhole_one_zeros_eq_infinity

theorem takenBack_indeterminate : takenBack.Indeterminate :=
  ⟨rfl, _, rfl, .inr ⟨takenBack_mantissa, by decide⟩⟩

theorem takenBack_value : takenBack.value = .nan :=
  Binary64.eq_nan_of_isNaN (takenBack_opens.isNaN_value.mpr takenBack_indeterminate)

theorem parse_takenBack (spec : SizeSpec) (token program : String) (scene : Scene) :
    (spec.parse token takenBackText program scene).1 = .error (.zero spec.name) := by
  have hnegative : takenBack.value.lt (.zero false) = false := by
    rw [takenBack_value]
    rfl
  exact (parse_refusedInOrder takenBack_opens spec token program scene).zero.mpr
    ⟨by decide, hnegative, .inr takenBack_indeterminate⟩

-- It is refused as a zero, which none of its digits and no small number account for.
theorem zero_without_zero :
    (SizeSpec.parse ⟨"initial heap size", "ms", 1, 4096⟩ ("-Xms" ++ takenBackText) takenBackText
        "bootvm" ⟨.unlimited, ⟨[], []⟩, []⟩).1 = .error (.zero "initial heap size") ∧
      Opens takenBackText takenBack "" ∧
      ¬(takenBack.value.isZero = true ∨
        takenBack.value.isNaN = true ∧ takenBack.mantissa.isZero = true) := by
  refine ⟨parse_takenBack _ _ _ _, takenBack_opens, ?_⟩
  rw [takenBack_value, takenBack_mantissa]
  simp [Binary64.isZero]

end SizeSpec

end Memory

end VmLauncher
