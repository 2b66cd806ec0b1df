import VmLauncher.Proofs.Threads.History
import Mathlib.Data.List.Destutter
-- What a thread takes and gives back from its start to its end, and the statuses that its
-- context goes through.
namespace VmLauncher.Threads

namespace Status

def path : List Status := [.created, .running, .terminating, .terminated]

def next? : Status → Option Status
  | created => some running
  | running => some terminating
  | terminating => some terminated
  | terminated => none

-- The part of the path from a status on.
def onward : Status → List Status
  | created => path
  | running => path.drop 1
  | terminating => path.drop 2
  | terminated => path.drop 3

theorem onward_of_next? {s s' : Status} (h : s.next? = some s') : s.onward = s :: s'.onward := by
  cases s <;> simp only [next?, Option.some.injEq, reduceCtorEq] at h
  all_goals
    subst h
    rfl

theorem singleton_prefix_onward (s : Status) : [s] <+: s.onward := by
  cases s <;> simp [onward, path]

end Status

-- The statuses that the context of a thread can have at a stage.
def Stage.Fits : Stage → Status → Prop
  | .starting, s | .stackInstalled, s | .terminationCaptured, s | .stateStored, s
  | .frameStored, s => s = .created
  | .running _, s | .unwinding .., s | .left _, s => s = .running ∨ s = .terminating
  | .closing _, s | .stateCleared _, s | .stackReleased _, s | .terminationReleased _, s
  | .argumentsReleased _, s => s = .terminating
  | .finished, s => s = .terminated

theorem StageStep.fits {serial : UInt64} {stage stage' : Stage} {act : Act} {s : Status}
    (h : StageStep serial stage act stage') (hf : stage.Fits s) :
    stage'.Fits (act.onStatus s) := by
  cases h <;> simp only [Stage.Fits] at hf
  case close | ask => rcases hf with rfl | rfl <;> simp [Stage.Fits, Act.onStatus]
  case within | throw | unwind | stop | finish | unwound => exact hf
  all_goals
    subst hf
    simp [Stage.Fits, Act.onStatus]

theorem StageStep.onStatus_next {serial : UInt64} {stage stage' : Stage} {act : Act}
    (h : StageStep serial stage act stage') (s : Status) :
    act.onStatus s = s ∨ s.next? = some (act.onStatus s) := by
  cases h <;> cases s <;> simp [Act.onStatus, Status.next?]

namespace Pool

-- The statuses of a context after one event and the next.
def later (p : Pool) (j : Nat) : List Event → List Status
  | [] => []
  | e :: events => (p.occur e).status j :: (p.occur e).later j events

def trail (p : Pool) (j : Nat) (events : List Event) : List Status :=
  p.status j :: p.later j events

variable {p q : Pool} {e : Event} {events : List Event}

theorem EventOutcome.status_next (h : EventOutcome p e q) (hp : p.Sound) (j : Nat) :
    q.status j = p.status j ∨ (p.status j).next? = some (q.status j) := by
  have hmade := grant_made hp.names (p.request? e)
  rw [← hmade.status j]
  cases h with
  | still h => exact .inl (h.status j)
  | @moves i t t' act q _ _ h =>
      have hstatus : (q.put i t').status j = q.status j := rfl
      rw [hstatus, h.effect.status]
      split_ifs
      · exact h.stage.onStatus_next _
      · exact .inl rfl

theorem trail_prefix_onward (hp : p.Sound) (j : Nat) (events : List Event) :
    (p.trail j events).destutter (· ≠ ·) <+: (p.status j).onward := by
  induction events generalizing p with
  | nil => exact Status.singleton_prefix_onward _
  | cons e events ih =>
      have hnext := ih (hp.occur e)
      rcases (occur_outcome hp e).status_next hp j with hs | hs
      · simpa [trail, later, List.destutter, List.destutter', hs] using hnext
      · have hne : p.status j ≠ (p.occur e).status j := by
          intro he
          rw [← he] at hs
          cases hj : p.status j <;> simp [hj, Status.next?] at hs
        rw [Status.onward_of_next? hs]
        simpa [trail, later, List.destutter, List.destutter', hne] using hnext

-- What holds as long as every thread has a context to itself.
structure Orderly (p : Pool) : Prop where
  fits : ∀ (i : Nat) (t : Thread), p.threads[i]? = some t → t.stage.Fits (p.status t.context)
  fresh : ∀ j, (∀ t ∈ p.threads, t.context ≠ j) → p.status j = .created

theorem orderly_start (substrate : Monitor.Substrate) (verbose : UInt32) :
    (start substrate verbose).Orderly where
  fits i t hi := by simp [start] at hi
  fresh j _ := rfl

theorem Orderly.noThreadMoves (hp : p.Orderly) (h : NoThreadMoves p q) : q.Orderly := by
  refine ⟨fun i u hi => ?_, fun j hj => ?_⟩
  · obtain ⟨t, ht, ha⟩ := h.of_getElem? hi
    rw [ha.stage, ha.context, h.status]
    exact hp.fits i t ht
  · rw [h.status]
    refine hp.fresh j fun t ht => ?_
    obtain ⟨f, hf, hthreads⟩ := h.threads
    have hmem : f t ∈ q.threads := hthreads ▸ List.mem_map_of_mem ht
    exact (hf t).context ▸ hj (f t) hmem

theorem Orderly.creationMade (hp : p.Orderly) {o : Option Creation} (h : CreationMade p o q)
    (hd : q.Distinct) : q.Orderly := by
  refine ⟨fun i u hi => ?_, fun j hj => ?_⟩
  · rw [h.status]
    rcases h.getElem?_cases hi with hu | ⟨rfl, hstage, -⟩
    · exact hp.fits i u hu
    · rw [hstage]
      refine hp.fresh _ fun t ht hcontext => ?_
      obtain ⟨k, hk⟩ := List.mem_iff_getElem?.mp ht
      have hlt := (List.getElem?_eq_some_iff.mp hk).1
      have := hd.eq_of_context hi (h.getElem? hk) hcontext
      omega
  · rw [h.status]
    refine hp.fresh j fun t ht => hj t ?_
    obtain ⟨new, hthreads, -⟩ := h.threads
    rw [hthreads]
    exact List.mem_append_left _ ht

theorem Orderly.threadMoves (hp : p.Orderly) (hd : p.Distinct) {i : Nat} {t t' : Thread}
    {act : Act} (h : ThreadMoves p i t act t' q) : (q.put i t').Orderly := by
  have hstatus : ∀ j, (q.put i t').status j =
      if j = t.context then act.onStatus (p.status j) else p.status j := h.effect.status
  refine ⟨fun j u hj => ?_, fun j hj => ?_⟩
  · rw [hstatus]
    rcases h.getElem?_cases hj with ⟨rfl, rfl⟩ | ⟨hne, hu⟩
    · rw [if_pos h.context, h.context]
      exact h.stage.fits (hp.fits j t h.here)
    · rw [if_neg fun hcontext => hne (hd.eq_of_context h.here hu hcontext)]
      exact hp.fits j u hu
  · have ht' : t' ∈ (q.put i t').threads := List.mem_of_getElem? h.getElem?_self
    have hne : j ≠ t.context := fun hcontext => hj t' ht' (h.context.trans hcontext.symm)
    rw [hstatus, if_neg hne]
    refine hp.fresh j fun u hu hcontext => ?_
    obtain ⟨k, hk⟩ := List.mem_iff_getElem?.mp hu
    have hki : k ≠ i := by
      rintro rfl
      rw [h.here, Option.some.injEq] at hk
      exact hne (hk ▸ hcontext.symm)
    have hu' : u ∈ (q.put i t').threads := List.mem_of_getElem? ((h.getElem?_of_ne hki).trans hk)
    exact hj u hu' hcontext

theorem Orderly.outcome (hp : p.Orderly) (hs : p.Sound) (h : EventOutcome p e q)
    (hd : q.Distinct) : q.Orderly := by
  have hmade := grant_made hs.names (p.request? e)
  cases h with
  | still h => exact (hp.creationMade hmade (hd.of_same h.sameIdentities)).noThreadMoves h
  | moves _ _ h =>
      have hmid := hd.of_same h.sameIdentities
      exact (hp.creationMade hmade hmid).threadMoves hmid h

theorem Orderly.after (hs : p.Sound) (hp : p.Orderly) (hd : (p.after events).Distinct) :
    (p.after events).Orderly :=
  after_induction (fun _ _ _ hs hp h hd => hp.outcome hs h hd) hs hp hd

end Pool

end VmLauncher.Threads
