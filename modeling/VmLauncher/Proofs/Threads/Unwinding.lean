import VmLauncher.Proofs.Threads.History
-- How far an unwinding goes: up to a frame of the entry point that stops it, and without such
-- a frame up to the start routine of the thread, and no further.
namespace VmLauncher.Threads

def Event.isStepOf (i : Nat) (e : Event) : Bool := e.actor? = some i

-- Where one step of an unwinding leads.
def outOf (cause : Departure) : List Frame → Stage
  | [] => .left cause
  | .attempt :: frames => .running frames
  | _ :: frames => .unwinding cause frames

-- Where an unwinding ends.
def landing (cause : Departure) : List Frame → Stage
  | [] => .left cause
  | .attempt :: frames => .running frames
  | _ :: frames => landing cause frames

-- How many steps of the thread it takes.
def distance : List Frame → Nat
  | [] => 1
  | .attempt :: _ => 1
  | _ :: frames => distance frames + 1

theorem landing_eq_left {cause : Departure} {frames : List Frame} (h : ∀ f ∈ frames, f ≠ .attempt) :
    landing cause frames = .left cause := by
  induction frames with
  | nil => rfl
  | cons f frames ih =>
      have hrest := ih fun f hf => h f (List.mem_cons_of_mem _ hf)
      cases f with
      | attempt => exact absurd rfl (h _ (List.mem_cons_self ..))
      | rest | guard => exact hrest

theorem StageStep.of_unwinding {serial : UInt64} {cause : Departure} {frames : List Frame}
    {act : Act} {stage : Stage} (h : StageStep serial (.unwinding cause frames) act stage) :
    stage = outOf cause frames := by
  cases h with
  | unwind cause frame frames hframe =>
      cases frame with
      | attempt => exact absurd rfl hframe
      | rest | guard => rfl
  | stop | unwound => rfl

theorem StageStep.of_terminate {serial : UInt64} {rest : List Action} {frames : List Frame}
    {act : Act} {stage : Stage}
    (h : StageStep serial (.running (.rest (.terminate :: rest) :: frames)) act stage) :
    stage = .unwinding (.terminated serial) (.rest rest :: frames) := by
  cases h with
  | ask => rfl
  | within _ _ hquiet => cases hquiet
  | throw _ _ hquiet => cases hquiet

namespace Pool

variable {p : Pool} {i : Nat} {t : Thread} {events : List Event}

theorem after_append (p : Pool) (before later : List Event) :
    p.after (before ++ later) = (p.after before).after later := by
  rw [after, List.foldl_append]
  rfl

theorem after_of_idle (hp : p.Sound) (hi : p.threads[i]? = some t)
    (h : events.countP (·.isStepOf i) = 0) :
    ∃ u, (p.after events).threads[i]? = some u ∧ u.identity = t.identity ∧ u.stage = t.stage := by
  induction events generalizing p t with
  | nil => exact ⟨t, hi, rfl, rfl⟩
  | cons e events ih =>
      have hnone := List.countP_eq_zero.mp h
      have he : e.actor? ≠ some i := by simpa [Event.isStepOf] using hnone e (by simp)
      obtain ⟨u, hu, ha⟩ := (occur_outcome hp e).bystander hp hi he
      obtain ⟨v, hv, hvidentity, hvstage⟩ :=
        ih (hp.occur e) hu (List.countP_eq_zero.mpr fun e he => hnone e (by simp [he]))
      exact ⟨v, hv, hvidentity.trans ha.identity, hvstage.trans ha.stage⟩

theorem exists_first_step {n : Nat} (h : events.countP (·.isStepOf i) = n + 1) :
    ∃ before later, events = before ++ .step i :: later ∧
      before.countP (·.isStepOf i) = 0 ∧ later.countP (·.isStepOf i) = n := by
  induction events with
  | nil => simp at h
  | cons e events ih =>
      by_cases he : e.isStepOf i = true
      · obtain rfl : e = .step i := Event.eq_step (by simpa [Event.isStepOf] using he)
        exact ⟨[], events, rfl, rfl, by simpa [he] using h⟩
      · rw [List.countP_cons_of_neg he] at h
        obtain ⟨before, later, rfl, hbefore, hlater⟩ := ih h
        exact ⟨e :: before, later, rfl, by rwa [List.countP_cons_of_neg he], hlater⟩

-- The next step of a thread, whatever the others do before it.
theorem after_first_step {n : Nat} (hp : p.Sound) (hi : p.threads[i]? = some t)
    (h : events.countP (·.isStepOf i) = n + 1) :
    ∃ (r : Pool) (u : Thread) (later : List Event), r.Sound ∧ r.threads[i]? = some u ∧
      u.identity = t.identity ∧ u.stage = t.stage ∧ later.countP (·.isStepOf i) = n ∧
      p.after events = (r.occur (.step i)).after later := by
  obtain ⟨before, later, rfl, hbefore, hlater⟩ := exists_first_step h
  obtain ⟨u, hu, hidentity, hstage⟩ := after_of_idle hp hi hbefore
  exact ⟨p.after before, u, later, hp.after before, hu, hidentity, hstage, hlater,
    p.after_append before _⟩

-- A thread that can go on does so by its own step.
theorem occur_step_stage (hp : p.Sound) (hi : p.threads[i]? = some t) (hc : t.canStep = true) :
    ∃ act u, (p.occur (.step i)).threads[i]? = some u ∧
      StageStep t.serial t.stage act u.stage := by
  obtain ⟨act, hstep⟩ := stepThread_step (hp.known i t hi) (hp.stored i t hi) hc
  have hhere := (grant_made hp.names t.request?).getElem? hi
  refine ⟨act, _, ?_, hstep.stage⟩
  rw [occur_step hi hc, put, hstep.effect.threads]
  exact List.getElem?_set_self (List.getElem?_eq_some_iff.mp hhere).1

theorem step_of_unwinding (hp : p.Sound) {cause : Departure} {frames : List Frame}
    (hi : p.threads[i]? = some t) (hstage : t.stage = .unwinding cause frames) :
    ∃ u, (p.occur (.step i)).threads[i]? = some u ∧ u.stage = outOf cause frames := by
  have hc : t.canStep = true := by
    simp [Thread.canStep, Thread.isFinished, Thread.isBlocked, hstage]
  obtain ⟨act, u, hu, hstep⟩ := occur_step_stage hp hi hc
  exact ⟨u, hu, (hstage ▸ hstep).of_unwinding⟩

theorem after_unwinding_step {n : Nat} (hp : p.Sound) {cause : Departure} {frames : List Frame}
    (hi : p.threads[i]? = some t) (hstage : t.stage = .unwinding cause frames)
    (h : events.countP (·.isStepOf i) = n + 1) :
    ∃ (r : Pool) (u : Thread) (later : List Event), r.Sound ∧ r.threads[i]? = some u ∧
      u.stage = outOf cause frames ∧ later.countP (·.isStepOf i) = n ∧
      p.after events = r.after later := by
  obtain ⟨r, u, later, hr, hu, -, hustage, hlater, hafter⟩ := after_first_step hp hi h
  obtain ⟨v, hv, hvstage⟩ := step_of_unwinding hr hu (hustage.trans hstage)
  exact ⟨_, v, later, hr.occur _, hv, hvstage, hlater, hafter⟩

-- Whatever other threads do meanwhile.
theorem unwinds (hp : p.Sound) {cause : Departure} {frames : List Frame}
    (hi : p.threads[i]? = some t) (hstage : t.stage = .unwinding cause frames)
    (h : events.countP (·.isStepOf i) = distance frames) :
    ∃ u, (p.after events).threads[i]? = some u ∧ u.stage = landing cause frames := by
  induction frames generalizing p t events with
  | nil =>
      obtain ⟨r, u, later, hr, hu, hustage, hlater, hafter⟩ := after_unwinding_step hp hi hstage h
      obtain ⟨v, hv, -, hvstage⟩ := after_of_idle hr hu hlater
      exact ⟨v, hafter ▸ hv, hvstage.trans hustage⟩
  | cons f frames ih =>
      cases f with
      | attempt =>
          obtain ⟨r, u, later, hr, hu, hustage, hlater, hafter⟩ :=
            after_unwinding_step hp hi hstage h
          obtain ⟨v, hv, -, hvstage⟩ := after_of_idle hr hu hlater
          exact ⟨v, hafter ▸ hv, hvstage.trans hustage⟩
      | rest | guard =>
          obtain ⟨r, u, later, hr, hu, hustage, hlater, hafter⟩ :=
            after_unwinding_step hp hi hstage h
          obtain ⟨v, hv, hvstage⟩ := ih hr hu hustage hlater
          exact ⟨v, hafter ▸ hv, hvstage⟩

theorem step_of_terminate (hp : p.Sound) {rest : List Action} {frames : List Frame}
    (hi : p.threads[i]? = some t)
    (hstage : t.stage = .running (.rest (.terminate :: rest) :: frames)) :
    ∃ u, (p.occur (.step i)).threads[i]? = some u ∧
      u.stage = .unwinding (.terminated t.serial) (.rest rest :: frames) := by
  have hc : t.canStep = true := by
    simp [Thread.canStep, Thread.isFinished, Thread.isBlocked, hstage]
  obtain ⟨act, u, hu, hstep⟩ := occur_step_stage hp hi hc
  exact ⟨u, hu, (hstage ▸ hstep).of_terminate⟩

-- A request that a thread makes for its own end carries the serial of the thread. It goes
-- through the frames of the entry point, and the start routine of the thread takes it unless
-- one of them has stopped it before.
theorem terminate_lands (hp : p.Sound) {rest : List Action} {frames : List Frame}
    (hi : p.threads[i]? = some t)
    (hstage : t.stage = .running (.rest (.terminate :: rest) :: frames))
    (h : events.countP (·.isStepOf i) = distance frames + 2) :
    ∃ u, (p.after events).threads[i]? = some u ∧
      u.stage = landing (.terminated t.serial) frames := by
  obtain ⟨r, u, later, hr, hu, hidentity, hustage, hlater, hafter⟩ := after_first_step hp hi h
  obtain ⟨v, hv, hvstage⟩ := step_of_terminate hr hu (hustage.trans hstage)
  obtain ⟨w, hw, hwstage⟩ := unwinds (hr.occur _) hv hvstage hlater
  have hserial : u.serial = t.serial := congrArg Identity.serial hidentity
  refine ⟨w, hafter ▸ hw, ?_⟩
  rw [hwstage, hserial]
  rfl

end Pool

end VmLauncher.Threads
