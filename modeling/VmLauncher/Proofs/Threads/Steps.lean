import VmLauncher.Proofs.Threads.Creations
-- What one step of a thread can do.
namespace VmLauncher.Threads

open Instance (Ledger Resource)

-- What a thread does by a step, a creation apart.
inductive Act where
  | nothing
  | take (r : Resource)
  | giveBack (r : Resource)
  | move (start goal : Status)
  -- The context of the thread gets the frame pointer that the thread was made with.
  | storeFrame
  -- The entry point is called.
  | enter

namespace Act

def onStatus (act : Act) (s : Status) : Status :=
  match act with
  | move start goal => if s = start then goal else s
  | enter => if s = .created then .running else s
  | _ => s

def onLedger (act : Act) (l : Ledger) : Ledger :=
  match act with
  | take r => l.allocate r
  | giveBack r => l.release r
  | _ => l

def onFramePointer (act : Act) (own stored : Nat) : Nat :=
  match act with
  | storeFrame => own
  | _ => stored

def calls (act : Act) (address framePointer : Nat) : List (Nat × Nat) :=
  match act with
  | enter => [(address, framePointer)]
  | _ => []

end Act

-- Whether the entry point asks for the end of its thread next.
def asksForEnd : List Frame → Bool
  | .rest (.terminate :: _) :: _ => true
  | _ => false

-- Where a thread of a serial goes on from a stage, and by which act. Within the entry point it
-- can stay for any number of steps.
inductive StageStep (serial : UInt64) : Stage → Act → Stage → Prop
  | install : StageStep serial .starting (.take .signalStack) .stackInstalled
  | capture : StageStep serial .stackInstalled (.take .terminationContext) .terminationCaptured
  | store : StageStep serial .terminationCaptured .nothing .stateStored
  | frame : StageStep serial .stateStored .storeFrame .frameStored
  | enter (frames : List Frame) : StageStep serial .frameStored .enter (.running frames)
  | within (frames frames' : List Frame) (h : asksForEnd frames = false) :
      StageStep serial (.running frames) .nothing (.running frames')
  | ask (rest : List Action) (frames : List Frame) :
      StageStep serial (.running (.rest (.terminate :: rest) :: frames))
        (.move .running .terminating) (.unwinding (.terminated serial) (.rest rest :: frames))
  | throw (frames frames' : List Frame) (h : asksForEnd frames = false) :
      StageStep serial (.running frames) .nothing (.unwinding .panicked frames')
  | finish : StageStep serial (.running []) .nothing (.left .returned)
  | unwind (cause : Departure) (frame : Frame) (frames : List Frame) (h : frame ≠ .attempt) :
      StageStep serial (.unwinding cause (frame :: frames)) .nothing (.unwinding cause frames)
  | stop (cause : Departure) (frames : List Frame) :
      StageStep serial (.unwinding cause (.attempt :: frames)) .nothing (.running frames)
  | unwound (cause : Departure) : StageStep serial (.unwinding cause []) .nothing (.left cause)
  | close (how : Departure) :
      StageStep serial (.left how) (.move .running .terminating) (.closing how)
  | clear (how : Departure) : StageStep serial (.closing how) .nothing (.stateCleared how)
  | dropStack (how : Departure) :
      StageStep serial (.stateCleared how) (.giveBack .signalStack) (.stackReleased how)
  | dropTermination (how : Departure) :
      StageStep serial (.stackReleased how) (.giveBack .terminationContext)
        (.terminationReleased how)
  | dropArguments (how : Departure) :
      StageStep serial (.terminationReleased how) (.giveBack .startArguments)
        (.argumentsReleased how)
  | settle (how : Departure) :
      StageStep serial (.argumentsReleased how) (.move .terminating .terminated) .finished

-- Whether a thread at a stage has its local state.
def Stage.hasState : Stage → Bool
  | .stateStored | .frameStored | .running _ | .unwinding .. | .left _ | .closing _ => true
  | _ => false

def Thread.Stored (t : Thread) : Prop :=
  t.localState = if t.stage.hasState then some ⟨t.context, t.serial⟩ else none

-- What an act of a thread makes of a pool, notes of other kinds than calls apart.
structure ActEffect (p : Pool) (t : Thread) (act : Act) (q : Pool) : Prop where
  contexts : q.contexts.length = p.contexts.length
  names : q.names = p.names
  nextSerial : q.owner.nextSerial = p.owner.nextSerial
  ledger : q.owner.ledger = act.onLedger p.owner.ledger
  status : ∀ j, q.status j = if j = t.context then act.onStatus (p.status j) else p.status j
  address : ∀ j, q.address j = p.address j
  framePointer : ∀ j, q.framePointer j =
    if j = t.context then act.onFramePointer t.framePointer (p.framePointer j)
    else p.framePointer j
  calls : q.calls = p.calls ++ act.calls (p.address t.context) t.framePointer
  threads : q.threads = p.threads

-- What a step makes of a pool and of the thread in it that goes on. A step that asks for a
-- creation does nothing else.
structure ThreadStep (p : Pool) (t : Thread) (act : Act) (q : Pool) (t' : Thread) : Prop where
  stage : StageStep t.serial t.stage act t'.stage
  effect : ActEffect (p.grant t.request?) t act q
  alone : t.request? = none ∨ act = .nothing
  identity : t'.identity = t.identity
  stored : t'.Stored

namespace Pool

theorem context_updateContext {p : Pool} {i : Nat} (hi : i < p.contexts.length)
    (f : Context → Context) (j : Nat) :
    (p.updateContext i f).context j = if j = i then f (p.context j) else p.context j := by
  by_cases hj : j = i
  · subst hj
    simp [updateContext, context, hi]
  · have hj' : i ≠ j := Ne.symm hj
    simp [updateContext, context, hj, hj']

end Pool

theorem Context.advance_status (c : Context) (start goal : Status) :
    (c.advance start goal).status = if c.status = start then goal else c.status := by
  unfold advance
  split_ifs <;> rfl

theorem Context.advance_address (c : Context) (start goal : Status) :
    (c.advance start goal).address = c.address := by
  unfold advance
  split_ifs <;> rfl

theorem Context.advance_framePointer (c : Context) (start goal : Status) :
    (c.advance start goal).framePointer = c.framePointer := by
  unfold advance
  split_ifs <;> rfl

namespace ActEffect

variable {p q : Pool} {t : Thread} {act : Act}

theorem nothing (p : Pool) (t : Thread) : ActEffect p t .nothing p := by
  refine ⟨rfl, rfl, rfl, rfl, fun j => ?_, fun j => rfl, fun j => ?_, ?_, rfl⟩
  · simp [Act.onStatus]
  · simp [Act.onFramePointer]
  · simp [Act.calls]

theorem log (h : ActEffect p t act q) (thread : String) (level : Journal.Level)
    (source : Journal.Source) (message : String) (fields : List (String × Journal.Value)) :
    ActEffect p t act (q.log thread level source message fields) :=
  ⟨h.contexts, h.names, h.nextSerial, h.ledger, h.status, h.address, h.framePointer, h.calls,
    h.threads⟩

theorem of_log {thread : String} {level : Journal.Level} {source : Journal.Source}
    {message : String} {fields : List (String × Journal.Value)}
    (h : ActEffect (p.log thread level source message fields) t act q) : ActEffect p t act q :=
  ⟨h.contexts, h.names, h.nextSerial, h.ledger, h.status, h.address, h.framePointer, h.calls,
    h.threads⟩

-- Notes other than those of calls count for nothing.
theorem report (p : Pool) (t : Thread) {note : Note} (hnote : note.call? = none) :
    ActEffect p t .nothing (p.report t note) := by
  have h := nothing p t
  have hcalls : (p.report t note).calls = p.calls := by simp [Pool.calls, Pool.report, hnote]
  exact ⟨rfl, rfl, rfl, rfl, h.status, h.address, h.framePointer, hcalls.trans h.calls, rfl⟩

theorem take (p : Pool) (t : Thread) (r : Resource) : ActEffect p t (.take r) (p.allocate r) := by
  have h := nothing p t
  exact ⟨rfl, rfl, rfl, rfl, h.status, h.address, h.framePointer, h.calls, rfl⟩

theorem giveBack (p : Pool) (t : Thread) (r : Resource) :
    ActEffect p t (.giveBack r) (p.release r) := by
  have h := nothing p t
  exact ⟨rfl, rfl, rfl, rfl, h.status, h.address, h.framePointer, h.calls, rfl⟩

-- A change of the context that the thread is on.
theorem updateContext (ht : t.context < p.contexts.length) (f : Context → Context)
    (hstatus : ∀ c, (f c).status = act.onStatus c.status)
    (haddress : ∀ c, (f c).address = c.address)
    (hframePointer : ∀ c, (f c).framePointer = act.onFramePointer t.framePointer c.framePointer)
    (hledger : ∀ l, act.onLedger l = l) (hcalls : ∀ a n, act.calls a n = []) :
    ActEffect p t act (p.updateContext t.context f) := by
  have hcontext := Pool.context_updateContext ht f
  refine ⟨by simp [Pool.updateContext], rfl, rfl, (hledger _).symm, fun j => ?_, fun j => ?_,
    fun j => ?_, ?_, rfl⟩
  · rw [Pool.status, hcontext, apply_ite Context.status, hstatus]
    rfl
  · rw [Pool.address, hcontext, apply_ite Context.address, haddress, ite_self]
    rfl
  · rw [Pool.framePointer, hcontext, apply_ite Context.framePointer, hframePointer]
    rfl
  · rw [hcalls, List.append_nil]
    rfl

theorem move (ht : t.context < p.contexts.length) (start goal : Status) :
    ActEffect p t (.move start goal) (p.advance t.context start goal) :=
  updateContext ht (·.advance start goal) (Context.advance_status · start goal)
    (Context.advance_address · start goal) (Context.advance_framePointer · start goal)
    (fun _ => rfl) fun _ _ => rfl

theorem storeFrame (ht : t.context < p.contexts.length) :
    ActEffect p t .storeFrame
      (p.updateContext t.context ({ · with framePointer := t.framePointer })) :=
  updateContext ht ({ · with framePointer := t.framePointer }) (fun _ => rfl) (fun _ => rfl)
    (fun _ => rfl) (fun _ => rfl) fun _ _ => rfl

-- The entry point is called on a context that runs by then.
theorem enter (h : ActEffect p t (.move .created .running) q) :
    ActEffect p t .enter
      (q.report t (.entered (q.address t.context) t.framePointer)) := by
  refine ⟨h.contexts, h.names, h.nextSerial, h.ledger, h.status, h.address, h.framePointer, ?_,
    h.threads⟩
  have hcalls : q.calls = p.calls := h.calls.trans (List.append_nil _)
  rw [h.address, ← hcalls]
  simp [Pool.calls, Pool.report, Note.call?, Act.calls]

end ActEffect

section ThreadStep

variable {p q : Pool} {t t' : Thread} {act : Act} {frames frames' : List Frame}

theorem ThreadStep.of_no_request (hrequest : t.request? = none)
    (stage : StageStep t.serial t.stage act t'.stage) (effect : ActEffect p t act q)
    (identity : t'.identity = t.identity) (stored : t'.Stored) : ThreadStep p t act q t' := by
  have hgrant : p.grant t.request? = p := by
    rw [hrequest]
    rfl
  exact ⟨stage, hgrant.symm ▸ effect, .inl hrequest, identity, stored⟩

-- The entry point goes on, and others can see no more of it than a creation.
theorem ThreadStep.within (hstage : t.stage = .running frames) (hs : t.Stored)
    (hquiet : asksForEnd frames = false) (hstage' : t'.stage = .running frames')
    (effect : ActEffect (p.grant t.request?) t .nothing q) (identity : t'.identity = t.identity)
    (hlocal : t'.localState = t.localState) : ThreadStep p t .nothing q t' := by
  have hserial : t'.serial = t.serial := congrArg Identity.serial identity
  have hcontext : t'.context = t.context := congrArg Identity.context identity
  refine ⟨?_, effect, .inr rfl, identity, ?_⟩
  · rw [hstage, hstage']
    exact .within frames frames' hquiet
  · rw [Thread.Stored, hlocal, hs, hstage, hstage', hcontext, hserial]
    rfl

namespace Pool

theorem terminate_effect (ht : t.context < p.contexts.length)
    (hlocal : t.localState = some ⟨t.context, t.serial⟩) (frames : List Frame) :
    ActEffect p t (.move .running .terminating) (p.terminate t frames).1 := by
  simp only [terminate, hlocal]
  have hmove := ActEffect.move (p := p.log t.name .trace .thread "thread terminate" []) ht
  exact .of_log (hmove .running .terminating)

theorem perform_step (ht : t.context < p.contexts.length) (hs : t.Stored) {a : Action}
    {rest : List Action} (hstage : t.stage = .running (.rest (a :: rest) :: frames)) :
    ∃ act, ThreadStep p t act (p.perform t a rest frames).1 (p.perform t a rest frames).2 := by
  rcases t with ⟨serial, context, framePointer, script, stage, localState, registered,
    resumeBlocked, permits⟩
  subst hstage
  have hlocal : localState = some ⟨context, serial⟩ := hs
  cases a with
  | observe | replaceStack => exact ⟨_, .within rfl hs rfl rfl (.report p _ rfl) rfl rfl⟩
  | guard | leave | attempt => exact ⟨_, .within rfl hs rfl rfl (.nothing p _) rfl rfl⟩
  | setUpTraps | yield =>
      exact ⟨_, .within rfl hs rfl rfl ((ActEffect.nothing p _).log _ _ _ _ _) rfl rfl⟩
  | block =>
      simp only [perform]
      split_ifs
      · exact ⟨_, .within rfl hs rfl rfl (.nothing p _) rfl rfl⟩
      · exact ⟨_, .within rfl hs rfl rfl (.report p _ rfl) rfl rfl⟩
  | panic => exact ⟨_, .of_no_request rfl (.throw _ _ rfl) (.nothing p _) rfl hs⟩
  | terminate =>
      subst hlocal
      exact ⟨_, .of_no_request rfl (.ask rest frames) (terminate_effect ht rfl _) rfl rfl⟩
  | create => exact ⟨_, .within rfl hs rfl rfl (.report _ _ rfl) rfl rfl⟩

theorem departureLog_effect (h : ActEffect p t act q) (u : Thread) (how : Departure) :
    ActEffect p t act (q.departureLog u how) := by
  cases how with
  | returned | terminated => exact h.log _ _ _ _ _
  | panicked => exact h

theorem dropStack_effect (p : Pool) (t : Thread) :
    ActEffect p t (.giveBack .signalStack) (p.dropStack t).1 := by
  unfold dropStack
  split_ifs
  · exact (ActEffect.giveBack p t .signalStack).log _ _ _ _ _
  · exact (ActEffect.of_log (.giveBack _ t .signalStack)).log _ _ _ _ _

-- A thread that can go on does so from its stage, by one act or one creation.
theorem stepThread_step (ht : t.context < p.contexts.length) (hs : t.Stored)
    (hc : t.canStep = true) :
    ∃ act, ThreadStep p t act (p.stepThread t).1 (p.stepThread t).2 := by
  rcases t with ⟨serial, context, framePointer, script, stage, localState, registered,
    resumeBlocked, permits⟩
  cases stage with
  | starting => exact ⟨_, .of_no_request rfl .install ((ActEffect.take _ _ _).log _ _ _ _ _) rfl hs⟩
  | stackInstalled => exact ⟨_, .of_no_request rfl .capture (.take _ _ _) rfl hs⟩
  | terminationCaptured => exact ⟨_, .of_no_request rfl .store (.nothing p _) rfl rfl⟩
  | stateStored => exact ⟨_, .of_no_request rfl .frame (.storeFrame ht) rfl hs⟩
  | frameStored =>
      have hmove := (ActEffect.move ht .created .running).log
      exact ⟨_, .of_no_request rfl (.enter _) (.enter (hmove _ _ _ _ _)) rfl hs⟩
  | running frames =>
      rcases frames with _ | ⟨frame, frames⟩
      · exact ⟨_, .of_no_request rfl .finish (.nothing p _) rfl hs⟩
      cases frame with
      | rest script =>
          rcases script with _ | ⟨a, rest⟩
          · exact ⟨_, .within rfl hs rfl rfl (.nothing p _) rfl rfl⟩
          · exact perform_step ht hs rfl
      | guard label => exact ⟨_, .within rfl hs rfl rfl (.report p _ rfl) rfl rfl⟩
      | attempt => exact ⟨_, .within rfl hs rfl rfl (.report p _ rfl) rfl rfl⟩
  | unwinding cause frames =>
      rcases frames with _ | ⟨frame, frames⟩
      · exact ⟨_, .of_no_request rfl (.unwound cause) (.nothing p _) rfl hs⟩
      cases frame with
      | rest script => exact ⟨_, .of_no_request rfl (.unwind _ _ _ nofun) (.nothing p _) rfl hs⟩
      | guard label =>
          exact ⟨_, .of_no_request rfl (.unwind _ _ _ nofun) (.report p _ rfl) rfl hs⟩
      | attempt => exact ⟨_, .of_no_request rfl (.stop _ _) (.report p _ rfl) rfl hs⟩
  | left how =>
      exact ⟨_, .of_no_request rfl (.close how) (departureLog_effect (.move ht _ _) _ how) rfl hs⟩
  | closing how => exact ⟨_, .of_no_request rfl (.clear how) (.nothing p _) rfl rfl⟩
  | stateCleared how =>
      exact ⟨_, .of_no_request rfl (.dropStack how) (dropStack_effect p _) rfl hs⟩
  | stackReleased how =>
      exact ⟨_, .of_no_request rfl (.dropTermination how) (.giveBack p _ _) rfl hs⟩
  | terminationReleased how =>
      exact ⟨_, .of_no_request rfl (.dropArguments how) (.giveBack p _ _) rfl hs⟩
  | argumentsReleased how =>
      refine ⟨_, .of_no_request rfl (.settle how) ?_ rfl hs⟩
      simp only [stepThread]
      split_ifs
      · exact (ActEffect.move ht _ _).log _ _ _ _ _
      · exact .move ht _ _
  | finished => simp [Thread.canStep, Thread.isFinished] at hc

end Pool

end ThreadStep

end VmLauncher.Threads
