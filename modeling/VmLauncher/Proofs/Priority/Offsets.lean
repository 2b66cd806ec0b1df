import VmLauncher.Priority
import Mathlib.Algebra.Ring.Int.Defs
-- A priority that was set is read back, whichever of the two mechanisms a thread has.
namespace VmLauncher.Priority

-- The integers that calls of the host take.
def InWord (n : Int) : Prop := -2 ^ 31 ≤ n ∧ n < 2 ^ 31

theorem midpoint_bounds {low high : Int} (h : low ≤ high) :
    low ≤ midpoint low high ∧ midpoint low high ≤ high := by
  have hhalf : (high - low).tdiv 2 = (high - low) / 2 := Int.tdiv_eq_ediv_of_nonneg (by omega)
  rw [midpoint, hhalf]
  omega

-- The two mechanisms count in opposite directions.
theorem neg_clampNiceness_neg (offset : Int) :
    -clampNiceness (-offset) = max (-19) (min 20 offset) := by
  simp only [clampNiceness, leastNiceness, greatestNiceness]
  omega

namespace Scheduling

-- A thread under a policy with priorities of its own.
structure Ranged (s : Scheduling) : Prop where
  ordered : s.low ≤ s.high
  spread : s.low ≠ 0 ∨ s.high ≠ 0
  within : s.low ≤ s.current ∧ s.current ≤ s.high

-- A thread that shares its time, with a handle that its niceness is found by.
structure TimeShared (s : Scheduling) (handle : Handle) : Prop where
  low : s.low = 0
  high : s.high = 0
  within : leastNiceness ≤ s.niceness ∧ s.niceness ≤ greatestNiceness
  handle : handle = .kernelThread

-- None of the numbers that an offset is worked out from overflows.
structure FitsWords (s : Scheduling) (offset : Int) : Prop where
  low : InWord s.low
  high : InWord s.high
  width : InWord (s.high - s.low)
  negated : InWord (-offset)
  requested : InWord (s.default + offset)

variable {s : Scheduling} {handle : Handle} {offset : Int}

theorem Ranged.hasRange (h : s.Ranged) : s.hasRange = true := by
  simpa [Scheduling.hasRange] using h.spread

theorem TimeShared.hasRange (h : s.TimeShared handle) : s.hasRange = false := by
  simp [Scheduling.hasRange, h.low, h.high]

theorem Ranged.offset_eq (h : s.Ranged) (handle : Handle) :
    s.offset handle = s.current - s.default := by
  simp [Scheduling.offset, h.hasRange]

theorem TimeShared.offset_eq (h : s.TimeShared handle) : s.offset handle = -s.niceness := by
  simp [Scheduling.offset, h.hasRange, h.handle]

theorem setOffset_of_eq (h : s.offset handle = offset) :
    s.setOffset handle offset = (.ok (), s) := by
  simp [setOffset, h]

-- All that a thread with a range can be brought to by a request.
theorem Ranged.setOffset_eq (h : s.Ranged) (handle : Handle) (offset : Int) :
    (∃ e, s.refusal = some e ∧ s.offset handle ≠ offset ∧
        s.setOffset handle offset = (.error e, s)) ∨
      (s.low ≤ s.default + offset ∧ s.default + offset ≤ s.high ∧
        s.setOffset handle offset = (.ok (), { s with current := s.default + offset })) ∨
      (s.refusal = none ∧ ¬(s.low ≤ s.default + offset ∧ s.default + offset ≤ s.high) ∧
        s.setOffset handle offset = (.error .invalidArgument, s)) := by
  by_cases hthere : s.offset handle = offset
  · -- A priority that is there already is the one that would be asked for.
    obtain rfl := hthere
    have hcurrent : s.default + s.offset handle = s.current := by
      rw [h.offset_eq]
      omega
    rw [hcurrent]
    exact .inr (.inl ⟨h.within.1, h.within.2, setOffset_of_eq rfl⟩)
  · simp only [setOffset, hthere, h.hasRange, if_true, if_false]
    rcases hrefusal : s.refusal with _ | e
    · by_cases hin : s.low ≤ s.default + offset ∧ s.default + offset ≤ s.high
      · exact .inr (.inl ⟨hin.1, hin.2, by simp [hin]⟩)
      · exact .inr (.inr ⟨rfl, hin, by simp [hin]⟩)
    · exact .inl ⟨e, rfl, hthere, rfl⟩

theorem TimeShared.setOffset_eq (h : s.TimeShared handle) (offset : Int) :
    (∃ e, s.refusal = some e ∧ s.offset handle ≠ offset ∧
        s.setOffset handle offset = (.error e, s)) ∨
      s.setOffset handle offset = (.ok (), { s with niceness := clampNiceness (-offset) }) := by
  by_cases hthere : s.offset handle = offset
  · obtain rfl := hthere
    have hniceness : clampNiceness (-s.offset handle) = s.niceness := by
      have hwithin := h.within
      rw [h.offset_eq, Int.neg_neg]
      simp only [clampNiceness, leastNiceness, greatestNiceness] at hwithin ⊢
      omega
    rw [hniceness]
    exact .inr (setOffset_of_eq rfl)
  · simp only [setOffset, hthere, h.hasRange, Bool.false_eq_true, if_false]
    obtain rfl := h.handle
    rcases hrefusal : s.refusal with _ | e
    · exact .inr rfl
    · exact .inl ⟨e, rfl, hthere, rfl⟩

-- What reading, asking and reading again come to at one thread and for one request.
structure ReadsBack (s : Scheduling) (handle : Handle) (offset : Int) : Prop where
  -- A policy with a range takes what is in it, and keeps it as it is.
  ranged : s.Ranged → (s.setOffset handle offset).1 = .ok () →
    s.low ≤ s.default + offset ∧ s.default + offset ≤ s.high ∧
      (s.setOffset handle offset).2.offset handle = offset
  -- Niceness ends where it ends.
  timeShared : s.TimeShared handle → (s.setOffset handle offset).1 = .ok () →
    (s.setOffset handle offset).2.offset handle = max (-19) (min 20 offset)
  there : s.offset handle = offset → s.setOffset handle offset = (.ok (), s)
  failed : ∀ e, (s.setOffset handle offset).1 = .error e → (s.setOffset handle offset).2 = s
  -- A host that refuses nothing fails a request only for the range.
  granted : s.refusal = none → ((s.setOffset handle offset).1 = .ok () ↔
    s.TimeShared handle ∨ s.low ≤ s.default + offset ∧ s.default + offset ≤ s.high)

theorem Ranged.not_timeShared (h : s.Ranged) : ¬s.TimeShared handle := by
  intro hshared
  have hrange := hshared.hasRange
  rw [h.hasRange] at hrange
  contradiction

theorem Ranged.readsBack (h : s.Ranged) (handle : Handle) (offset : Int) :
    s.ReadsBack handle offset := by
  have hshared : ¬s.TimeShared handle := h.not_timeShared
  rcases h.setOffset_eq handle offset with
    ⟨e, hrefusal, hthere, heq⟩ | ⟨hlow, hhigh, heq⟩ | ⟨hrefusal, hout, heq⟩
  · constructor <;> simp [heq, hrefusal, hthere]
  · have hkept : ({ s with current := s.default + offset } : Scheduling).Ranged :=
      ⟨h.ordered, h.spread, hlow, hhigh⟩
    have hread : (s.setOffset handle offset).2.offset handle = offset := by
      rw [heq, hkept.offset_eq]
      simp only [default]
      omega
    refine ⟨fun _ _ => ⟨hlow, hhigh, hread⟩, fun hs => absurd hs hshared, setOffset_of_eq, ?_, ?_⟩
    · simp [heq]
    · simp [heq, hlow, hhigh]
  · have hthere : s.offset handle ≠ offset := by
      intro hthere
      rw [setOffset_of_eq hthere] at heq
      simp at heq
    constructor <;> simp [heq, hthere, hshared, hout]

theorem TimeShared.readsBack (h : s.TimeShared handle) (offset : Int) :
    s.ReadsBack handle offset := by
  have hranged : ¬s.Ranged := fun hr => hr.not_timeShared h
  rcases h.setOffset_eq offset with ⟨e, hrefusal, hthere, heq⟩ | heq
  · constructor <;> simp [heq, hrefusal, hthere]
  · have hread : (s.setOffset handle offset).2.offset handle = max (-19) (min 20 offset) := by
      rw [heq, ← neg_clampNiceness_neg]
      simp [Scheduling.offset, Scheduling.hasRange, h.low, h.high, h.handle]
    refine ⟨fun hr => absurd hr hranged, fun _ _ => hread, setOffset_of_eq, ?_, ?_⟩
    · simp [heq]
    · simp [heq, h]

-- A request leaves the range alone, and the thread in it.
theorem Ranged.setOffset (h : s.Ranged) (handle : Handle) (offset : Int) :
    (s.setOffset handle offset).2.Ranged ∧ (s.setOffset handle offset).2.low = s.low ∧
      (s.setOffset handle offset).2.high = s.high := by
  rcases h.setOffset_eq handle offset with
    ⟨e, -, -, heq⟩ | ⟨hlow, hhigh, heq⟩ | ⟨-, -, heq⟩
  · rw [heq]
    exact ⟨h, rfl, rfl⟩
  · rw [heq]
    exact ⟨⟨h.ordered, h.spread, hlow, hhigh⟩, rfl, rfl⟩
  · rw [heq]
    exact ⟨h, rfl, rfl⟩

theorem clampNiceness_bounds (n : Int) :
    leastNiceness ≤ clampNiceness n ∧ clampNiceness n ≤ greatestNiceness := by
  simp only [clampNiceness, leastNiceness, greatestNiceness]
  omega

theorem TimeShared.setOffset (h : s.TimeShared handle) (offset : Int) :
    (s.setOffset handle offset).2.TimeShared handle := by
  rcases h.setOffset_eq offset with ⟨e, -, -, heq⟩ | heq
  · rw [heq]
    exact h
  · rw [heq]
    exact ⟨h.low, h.high, clampNiceness_bounds _, h.handle⟩

theorem Ranged.inWord (h : s.Ranged) (hlow : InWord s.low) (hhigh : InWord s.high)
    (hwidth : InWord (s.high - s.low)) (handle : Handle) :
    InWord s.default ∧ InWord (s.offset handle) := by
  have hmiddle := midpoint_bounds h.ordered
  have hwithin := h.within
  rw [h.offset_eq]
  simp only [default, InWord] at *
  omega

theorem TimeShared.inWord (h : s.TimeShared handle) :
    InWord s.default ∧ InWord (s.offset handle) := by
  have hmiddle : s.default = 0 := by simp [default, midpoint, h.low, h.high]
  have hwithin := h.within
  rw [h.offset_eq, hmiddle]
  simp only [InWord, leastNiceness, greatestNiceness] at *
  omega

-- For every thread that has one of the two mechanisms and every request. The middle of a range is
-- in it, so the offset zero can be asked for wherever there is a range. And where what is asked for
-- fits into the host's integers, so does all that is worked out for it, before and afterwards.
theorem offset_read_back (s : Scheduling) (handle : Handle) (offset : Int)
    (h : s.Ranged ∨ s.TimeShared handle) :
    s.ReadsBack handle offset ∧ s.low ≤ s.default ∧ s.default ≤ s.high ∧
      (s.FitsWords offset → InWord s.default ∧ InWord (s.offset handle) ∧
        InWord ((s.setOffset handle offset).2.offset handle)) := by
  rcases h with h | h
  · obtain ⟨hmin, hmax⟩ := midpoint_bounds h.ordered
    refine ⟨h.readsBack handle offset, hmin, hmax, fun hfits => ?_⟩
    obtain ⟨hdefault, hoffset⟩ := h.inWord hfits.low hfits.high hfits.width handle
    obtain ⟨hafter, hlow, hhigh⟩ := h.setOffset handle offset
    exact ⟨hdefault, hoffset, (hafter.inWord (hlow ▸ hfits.low) (hhigh ▸ hfits.high)
      (hlow ▸ hhigh ▸ hfits.width) handle).2⟩
  · have hmiddle : s.default = 0 := by simp [default, midpoint, h.low, h.high]
    refine ⟨h.readsBack offset, Int.le_of_eq (h.low.trans hmiddle.symm),
      Int.le_of_eq (hmiddle.trans h.high.symm), ?_⟩
    intro _
    exact ⟨h.inWord.1, h.inWord.2, (h.setOffset offset).inWord.2⟩

-- The end of a range that begins below zero, and a niceness that is moved to the end of its own.
theorem offset_read_back_of_ends :
    let ranged : Scheduling := { low := -3, high := 4, current := -1 }
    let shared : Scheduling := { niceness := 5 }
    (ranged.Ranged ∧ ranged.FitsWords 4 ∧ shared.TimeShared .kernelThread ∧
        shared.FitsWords 30) ∧
      (ranged.setOffset .kernelThread 4).1 = .ok () ∧
      (ranged.setOffset .kernelThread 4).2.offset .kernelThread = 4 ∧
      (shared.setOffset .kernelThread 30).1 = .ok () ∧
      (shared.setOffset .kernelThread 30).2.offset .kernelThread = 20 := by
  intro ranged shared
  have hranged : ranged.Ranged := ⟨by decide, .inl (by decide), by decide, by decide⟩
  have hshared : shared.TimeShared .kernelThread := ⟨rfl, rfl, ⟨by decide, by decide⟩, rfl⟩
  have hrangedOk : (ranged.setOffset .kernelThread 4).1 = .ok () := rfl
  have hsharedOk : (shared.setOffset .kernelThread 30).1 = .ok () := rfl
  have hback := (offset_read_back ranged .kernelThread 4 (.inl hranged)).1
  have hback' := (offset_read_back shared .kernelThread 30 (.inr hshared)).1
  refine ⟨⟨hranged, ?_, hshared, ?_⟩, hrangedOk, (hback.ranged hranged hrangedOk).2.2, hsharedOk,
    hback'.timeShared hshared hsharedOk⟩
  · constructor <;> exact ⟨by decide, by decide⟩
  · constructor <;> exact ⟨by decide, by decide⟩

end Scheduling

end VmLauncher.Priority
