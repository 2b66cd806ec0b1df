import VmLauncher.Proofs.Threads.Counts
import VmLauncher.Proofs.Threads.Lifecycle
-- What the ledger says a thread took and gave back, and when.
namespace VmLauncher.Threads

open Instance (Resource)

inductive Deed where
  | taken
  | returned
deriving DecidableEq, Repr

-- One change of the ledger for a thread. The status is the one that the context of the
-- thread has after something is taken, or before something is given back.
structure Entry where
  resource : Resource
  deed : Deed
  status : Status
deriving DecidableEq, Repr

def Entry.delta (x : Entry) (r : Resource) : Int :=
  if x.resource = r then (match x.deed with | .taken => 1 | .returned => -1) else 0

-- How many of a resource are left in the hands of a thread.
def held : List Entry → Resource → Int
  | [], _ => 0
  | x :: entries, r => x.delta r + held entries r

-- All that a thread takes and gives back from its start to its end.
def life : List Entry :=
  [⟨.startArguments, .taken, .created⟩, ⟨.signalStack, .taken, .created⟩,
    ⟨.terminationContext, .taken, .created⟩, ⟨.signalStack, .returned, .terminating⟩,
    ⟨.terminationContext, .returned, .terminating⟩, ⟨.startArguments, .returned, .terminating⟩]

def resources : List Resource := [.startArguments, .signalStack, .terminationContext]

-- So many entries of each resource, between two statuses.
def bookings (takes gives : Resource → Nat) (before after : Status) : List Entry :=
  resources.flatMap fun r =>
    List.replicate (takes r) ⟨r, .taken, after⟩ ++ List.replicate (gives r) ⟨r, .returned, before⟩

theorem bookings_nothing (before after : Status) :
    bookings Act.nothing.takes Act.nothing.gives before after = [] := rfl

-- How much of its life a thread at a stage has behind it.
def Stage.dealings : Stage → Nat
  | .starting => 1
  | .stackInstalled => 2
  | .terminationCaptured | .stateStored | .frameStored | .running _ | .unwinding .. | .left _
  | .closing _ | .stateCleared _ => 3
  | .stackReleased _ => 4
  | .terminationReleased _ => 5
  | .argumentsReleased _ | .finished => 6

theorem StageStep.bookings {serial : UInt64} {stage stage' : Stage} {act : Act} {s : Status}
    (h : StageStep serial stage act stage') (hf : stage.Fits s) :
    life.take stage.dealings ++ bookings act.takes act.gives s (act.onStatus s) =
      life.take stage'.dealings := by
  cases h <;> simp only [Stage.Fits] at hf
  case install | capture | dropStack | dropTermination | dropArguments =>
    subst hf
    rfl
  all_goals rfl

theorem held_life_take (t : Thread) (r : Resource) :
    held (life.take t.stage.dealings) r = if t.owns r then 1 else 0 := by
  unfold Thread.owns
  cases t.stage <;> cases r <;> rfl

namespace Pool

def threadStatus (p : Pool) (i : Nat) : Status :=
  match p.threads[i]? with
  | some t => p.status t.context
  | none => .created

-- Whom what is taken by an event belongs to: start arguments to the thread that is made
-- with them, everything else to the thread that makes the step.
def recipient? (p q : Pool) (e : Event) (r : Resource) : Option Nat :=
  if r = .startArguments ∧ p.threads.length < q.threads.length then some p.threads.length
  else e.actor?

-- What the ledger counts for a thread between two pools.
def changes (p q : Pool) (e : Event) (i : Nat) : List Entry :=
  bookings
    (fun r => if p.recipient? q e r = some i then
      ((q.counter r).allocated - (p.counter r).allocated).toNat else 0)
    (fun r => if e.actor? = some i then
      ((q.counter r).released - (p.counter r).released).toNat else 0)
    (p.threadStatus i) (q.threadStatus i)

-- What the ledger counts for a thread in the course of some events.
def account (p : Pool) (i : Nat) : List Event → List Entry
  | [] => []
  | e :: events => p.changes (p.occur e) e i ++ (p.occur e).account i events

def dealings (p : Pool) (i : Nat) : Nat :=
  match p.threads[i]? with
  | some t => t.stage.dealings
  | none => 0

theorem changes_of_bystander {p q : Pool} {e : Event} {i : Nat}
    (hr : ∀ r, p.recipient? q e r ≠ some i) (ha : e.actor? ≠ some i) : p.changes q e i = [] := by
  simp only [changes, hr, ha, if_false]
  exact bookings_nothing _ _

theorem changes_self (p : Pool) (e : Event) (i : Nat) : p.changes p e i = [] := by
  simp only [changes, UInt64.sub_self, UInt64.toNat_zero, ite_self]
  exact bookings_nothing _ _

-- Where no thread is made, only the thread that makes the step has a part in it.
theorem recipient?_of_length_eq {p q : Pool} (h : q.threads.length = p.threads.length) (e : Event)
    (r : Resource) : p.recipient? q e r = e.actor? := by
  simp [recipient?, h]

theorem threadStatus_of_getElem? {p : Pool} {i : Nat} {t : Thread} (h : p.threads[i]? = some t) :
    p.threadStatus i = p.status t.context := by
  simp [threadStatus, h]

theorem dealings_of_getElem? {p : Pool} {i : Nat} {t : Thread} (h : p.threads[i]? = some t) :
    p.dealings i = t.stage.dealings := by
  simp [dealings, h]

theorem Orderly.threadStatus_starting {p : Pool} (hp : p.Orderly) {i : Nat} {t : Thread}
    (hi : p.threads[i]? = some t) (hstage : t.stage = .starting) :
    p.threadStatus i = .created := by
  have hfits := hp.fits i t hi
  rw [hstage] at hfits
  exact (threadStatus_of_getElem? hi).trans hfits

-- A thread that starts has taken its start arguments, and nothing else has happened.
theorem changes_of_new {p q : Pool}
    (hledger : q.owner.ledger = p.owner.ledger.allocate .startArguments)
    (hlength : p.threads.length < q.threads.length) (e : Event) (i : Nat) :
    p.changes q e i =
      if i = p.threads.length then [⟨.startArguments, .taken, q.threadStatus i⟩] else [] := by
  have hcounter (r : Resource) := p.owner.ledger.counter_allocate .startArguments r
  have hgives (r : Resource) : ((q.counter r).released - (p.counter r).released).toNat = 0 := by
    rw [counter, counter, hledger, (hcounter r).2, UInt64.sub_self]
    rfl
  have htakes (r : Resource) : ((q.counter r).allocated - (p.counter r).allocated).toNat =
      if Resource.startArguments = r then 1 else 0 := by
    rw [counter, counter, hledger, (hcounter r).1, UInt64.add_comm, UInt64.add_sub_cancel]
    split_ifs <;> rfl
  have hwhom : p.recipient? q e .startArguments = some p.threads.length := by
    simp [recipient?, hlength]
  simp only [changes, hgives, htakes, ite_self, bookings, resources, List.flatMap_cons,
    List.flatMap_nil, List.replicate_zero, List.append_nil, hwhom, Option.some.injEq, reduceCtorEq,
    if_false, if_true]
  by_cases hi : i = p.threads.length
  · simp [hi]
  · simp [hi, Ne.symm hi]

-- The thread that is new is still at its start when the event is over.
theorem take_dealings_of_new {p q : Pool} (hq : q.Orderly)
    (hledger : q.owner.ledger = p.owner.ledger.allocate .startArguments) {new : Thread}
    (hnew : q.threads[p.threads.length]? = some new) (hstage : new.stage = .starting)
    (hsame : ∀ i, i ≠ p.threads.length → life.take (q.dealings i) = life.take (p.dealings i))
    (e : Event) (i : Nat) :
    life.take (p.dealings i) ++ p.changes q e i = life.take (q.dealings i) := by
  rw [changes_of_new hledger (List.getElem?_eq_some_iff.mp hnew).1]
  by_cases hi : i = p.threads.length
  · rw [if_pos hi, hi, hq.threadStatus_starting hnew hstage, dealings_of_getElem? hnew, hstage]
    simp [dealings, Stage.dealings, life]
  · rw [if_neg hi, List.append_nil, hsame i hi]

theorem changes_of_moves {p q : Pool} {k : Nat} {t t' : Thread} {act : Act}
    (h : ThreadMoves p k t act t' q) (i : Nat) :
    p.changes (q.put k t') (.step k) i =
      if i = k then bookings act.takes act.gives (p.status t.context)
        (act.onStatus (p.status t.context)) else [] := by
  have hlength : (q.put k t').threads.length = p.threads.length := by
    simp [put, h.effect.threads]
  have hwhom (r : Resource) := recipient?_of_length_eq hlength (.step k) r
  by_cases hi : i = k
  · subst hi
    have hstatus : (q.put i t').status t'.context = act.onStatus (p.status t.context) := by
      rw [h.context]
      exact (h.effect.status _).trans (if_pos rfl)
    have hledger : (q.put i t').owner.ledger = act.onLedger p.owner.ledger := h.effect.ledger
    have hcounter (r : Resource) := act.counter_onLedger p.owner.ledger r
    have htakes (r : Resource) :
        (((q.put i t').counter r).allocated - (p.counter r).allocated).toNat = act.takes r := by
      rw [counter, counter, hledger, (hcounter r).1]
      exact toNat_count_sub _ (act.takes_le_one r)
    have hgives (r : Resource) :
        (((q.put i t').counter r).released - (p.counter r).released).toNat = act.gives r := by
      rw [counter, counter, hledger, (hcounter r).2]
      exact toNat_count_sub _ (act.gives_le_one r)
    rw [changes, threadStatus_of_getElem? h.here, threadStatus_of_getElem? h.getElem?_self, hstatus]
    simp only [hwhom, Event.actor?, htakes, hgives, if_true]
  · have hne : k ≠ i := Ne.symm hi
    rw [if_neg hi]
    exact changes_of_bystander (by simp [hwhom, Event.actor?, hne]) (by simp [Event.actor?, hne])

theorem take_dealings_of_moves {p q : Pool} (hp : p.Orderly) {k : Nat} {t t' : Thread} {act : Act}
    (h : ThreadMoves p k t act t' q) (i : Nat) :
    life.take (p.dealings i) ++
        (if i = k then bookings act.takes act.gives (p.status t.context)
          (act.onStatus (p.status t.context)) else []) =
      life.take ((q.put k t').dealings i) := by
  by_cases hi : i = k
  · subst hi
    rw [if_pos rfl, dealings_of_getElem? h.here, dealings_of_getElem? h.getElem?_self]
    exact h.stage.bookings (hp.fits i t h.here)
  · rw [if_neg hi, List.append_nil, dealings, dealings, h.getElem?_of_ne hi]

theorem dealings_of_still {p q : Pool} (h : NoThreadMoves p q) (i : Nat) :
    q.dealings i = p.dealings i := by
  obtain ⟨f, hf, hthreads⟩ := h.threads
  rcases hi : p.threads[i]? with _ | t
  · simp [dealings, hthreads, hi]
  · simp [dealings, hthreads, hi, (hf t).stage]

theorem dealings_of_ne_new {p mid : Pool} {new : Thread} (hmid : mid.threads = p.threads ++ [new])
    {i : Nat} (hi : i ≠ p.threads.length) : mid.dealings i = p.dealings i := by
  by_cases hlt : i < p.threads.length
  · simp [dealings, hmid, List.getElem?_append_left hlt]
  · have hle : p.threads.length + 1 ≤ i := by omega
    have hnone : (p.threads ++ [new])[i]? = none := List.getElem?_eq_none (by simpa using hle)
    simp [dealings, hmid, hnone, List.getElem?_eq_none (Nat.le_of_succ_le hle)]

-- What no thread does is taken and given back by none of them.
theorem changes_of_no_actor {p q : Pool} (hlength : q.threads.length = p.threads.length)
    {e : Event} (he : e.actor? = none) (i : Nat) : p.changes q e i = [] :=
  changes_of_bystander (by simp [recipient?_of_length_eq hlength, he]) (by simp [he])

-- An event in which no thread goes on counts start arguments for a thread that it makes.
theorem take_dealings_of_still {p q : Pool} {e : Event} (hs : p.Sound) (hq : q.Orderly)
    (h : NoThreadMoves (p.grant (p.request? e)) q) (he : e.actor? = none ∨ q = p) (i : Nat) :
    life.take (p.dealings i) ++ p.changes q e i = life.take (q.dealings i) := by
  rcases (grant_made hs.names (p.request? e)).threads_cases with
    ⟨hthreads, -⟩ | ⟨c, new, -, hledger, hthreads, -, hstage, -⟩
  · have hsame : q.dealings i = p.dealings i := by
      rw [dealings_of_still h, dealings, hthreads, dealings]
    rw [hsame]
    rcases he with he | rfl
    · have hlength : q.threads.length = p.threads.length := by
        obtain ⟨f, -, hmap⟩ := h.threads
        rw [hmap, List.length_map, hthreads]
      rw [changes_of_no_actor hlength he, List.append_nil]
    · rw [changes_self, List.append_nil]
  · have hmid : (p.grant (p.request? e)).threads[p.threads.length]? = some new := by
      rw [hthreads, List.getElem?_concat_length]
    obtain ⟨u, hu, ha⟩ := h.getElem? hmid
    refine take_dealings_of_new hq ?_ hu (ha.stage.trans hstage) (fun j hj => ?_) e i
    · rw [h.owner, hledger]
    · rw [dealings_of_still h, dealings_of_ne_new hthreads hj]

-- A step counts what the thread takes or gives back, or start arguments for a thread that it
-- makes, and never both.
theorem take_dealings_of_step {p q : Pool} {k : Nat} {t t' : Thread} {act : Act} (hs : p.Sound)
    (hp : p.Orderly) (hd : (q.put k t').Distinct) (here : p.threads[k]? = some t)
    (alone : t.request? = none ∨ act = .nothing)
    (h : ThreadMoves (p.grant (p.request? (.step k))) k t act t' q) (i : Nat) :
    life.take (p.dealings i) ++ p.changes (q.put k t') (.step k) i =
      life.take ((q.put k t').dealings i) := by
  have hmade := grant_made hs.names (p.request? (.step k))
  have hmid := hp.creationMade hmade (hd.of_same h.sameIdentities)
  rcases hmade.threads_cases with ⟨-, hrefused⟩ | ⟨c, new, hc, hledger, hthreads, -, hstage, -⟩
  · rw [request?_step here, request?_of_not_granted here hrefused] at h
    change ThreadMoves p k t act t' q at h
    rw [changes_of_moves h, take_dealings_of_moves hp h]
  · have hnothing : act = .nothing := by
      refine alone.resolve_left fun hnone => ?_
      rw [request?_step here, hnone] at hc
      contradiction
    subst hnothing
    have hk : p.threads.length ≠ k := Nat.ne_of_gt (List.getElem?_eq_some_iff.mp here).1
    have hnew : (q.put k t').threads[p.threads.length]? = some new := by
      rw [h.getElem?_of_ne hk, hthreads, List.getElem?_concat_length]
    have hq := hmid.threadMoves (hd.of_same h.sameIdentities) h
    refine take_dealings_of_new hq (h.effect.ledger.trans hledger) hnew hstage (fun j hj => ?_) _ i
    rw [← take_dealings_of_moves hmid h j, bookings_nothing, ite_self, List.append_nil,
      dealings_of_ne_new hthreads hj]

-- What an event counts for a thread is the next part of the thread's life.
theorem EventOutcome.take_dealings {p q : Pool} {e : Event} (h : EventOutcome p e q) (hs : p.Sound)
    (hp : p.Orderly) (hd : q.Distinct) (i : Nat) :
    life.take (p.dealings i) ++ p.changes q e i = life.take (q.dealings i) := by
  have hq := hp.outcome hs h hd
  cases h with
  | still h he => exact take_dealings_of_still hs hq h he i
  | moves here alone h => exact take_dealings_of_step hs hp hd here alone h i

-- The account of a thread grows along its life.
theorem take_dealings_after {p : Pool} (hs : p.Sound) (hp : p.Orderly) {events : List Event}
    (hd : (p.after events).Distinct) (i : Nat) :
    life.take (p.dealings i) ++ p.account i events =
      life.take ((p.after events).dealings i) := by
  induction events generalizing p with
  | nil => simp [account, after]
  | cons e events ih =>
      have houtcome := occur_outcome hs e
      have hsound := hs.occur e
      have hdistinct := Distinct.of_after hsound hd
      have hstep := houtcome.take_dealings hs hp hdistinct i
      have hrest := ih hsound (hp.outcome hs houtcome hdistinct) hd
      rw [account, ← List.append_assoc, hstep]
      exact hrest

end Pool

theorem Stage.Fits.dealings_of_running {stage : Stage} (h : stage.Fits .running) :
    stage.dealings = 3 := by
  cases stage <;> first | rfl | simp [Stage.Fits] at h

theorem Stage.Fits.finished_of_terminated {stage : Stage} (h : stage.Fits .terminated) :
    stage = .finished := by
  cases stage <;> first | rfl | simp [Stage.Fits] at h

namespace Pool

variable {substrate : Monitor.Substrate} {verbose : UInt32} {events : List Event}

-- The account of a thread from the start of the pool on.
theorem account_eq (hd : ((start substrate verbose).after events).Distinct) {i : Nat} {t : Thread}
    (hi : ((start substrate verbose).after events).threads[i]? = some t) :
    (start substrate verbose).account i events = life.take t.stage.dealings := by
  have h := take_dealings_after (sound_start substrate verbose) (orderly_start substrate verbose)
    hd i
  rw [dealings_of_getElem? hi] at h
  exact h

theorem held_account (hd : ((start substrate verbose).after events).Distinct) {i : Nat}
    {t : Thread} (hi : ((start substrate verbose).after events).threads[i]? = some t)
    (r : Resource) :
    held ((start substrate verbose).account i events) r = if t.owns r then 1 else 0 := by
  rw [account_eq hd hi, held_life_take]

theorem counters_of_all_terminated (hd : ((start substrate verbose).after events).Distinct)
    (hall : ∀ t ∈ ((start substrate verbose).after events).threads,
      ((start substrate verbose).after events).status t.context = .terminated) (r : Resource) :
    (((start substrate verbose).after events).counter r).allocated =
      (((start substrate verbose).after events).counter r).released := by
  have hsound := sound_start substrate verbose
  have hcounts := (ledgerCounts_start substrate verbose).after hsound events
  have horderly := (orderly_start substrate verbose).after hsound hd
  have hnone : ((start substrate verbose).after events).threads.countP (·.owns r) = 0 := by
    refine List.countP_eq_zero.mpr fun t ht => ?_
    obtain ⟨i, hi⟩ := List.mem_iff_getElem?.mp ht
    have hfits := horderly.fits i t hi
    rw [hall t ht] at hfits
    have hstage := hfits.finished_of_terminated
    cases r <;> simp [Thread.owns, hstage]
  rw [hcounts.allocated_eq r, hnone]
  exact UInt64.add_zero _

-- What some events have made of a pool that no thread was in.
structure Lived (first : Pool) (events : List Event) (p : Pool) : Prop where
  -- Every context has gone along the path of statuses, by single steps.
  statuses : ∀ j, (first.trail j events).destutter (· ≠ ·) <+: Status.path
  -- No thread has taken or given back anything out of turn, or twice.
  account : ∀ (i : Nat) (t : Thread), p.threads[i]? = some t → first.account i events <+: life
  owns : ∀ (i : Nat) (t : Thread), p.threads[i]? = some t →
    ∀ r, held (first.account i events) r = if t.owns r then 1 else 0
  running : ∀ (i : Nat) (t : Thread), p.threads[i]? = some t →
    p.status t.context = .running → ∀ r, held (first.account i events) r = 1
  terminated : ∀ (i : Nat) (t : Thread), p.threads[i]? = some t →
    p.status t.context = .terminated → first.account i events = life
  ledger : ∀ r, (p.counter r).allocated =
    (p.counter r).released + .ofNat (p.threads.countP (·.owns r))
  -- While a word can hold the number of creations, the counters are numbers and not remainders.
  counted : (first.creations events).length < UInt64.size → ∀ r,
    (p.counter r).allocated.toNat =
      (p.counter r).released.toNat + p.threads.countP (·.owns r)
  settled : (∀ t ∈ p.threads, p.status t.context = .terminated) →
    (∀ r, (p.counter r).allocated = (p.counter r).released) ∧ p.owner.ledger.isBalanced = true

theorem isBalanced_of_counters {p : Pool}
    (h : ∀ r, (p.counter r).allocated = (p.counter r).released) :
    p.owner.ledger.isBalanced = true :=
  p.owner.ledger.isBalanced_iff.mpr fun r => UInt64.le_of_eq (h r)

-- In any order of the steps of threads, as long as every one has a context to itself.
theorem thread_lifecycle (substrate : Monitor.Substrate) (verbose : UInt32) (events : List Event)
    (hd : ((start substrate verbose).after events).Distinct) :
    Lived (start substrate verbose) events ((start substrate verbose).after events) := by
  have hsound := sound_start substrate verbose
  have hcounts := (ledgerCounts_start substrate verbose).after hsound events
  have horderly := (orderly_start substrate verbose).after hsound hd
  constructor
  · exact fun j => trail_prefix_onward hsound j events
  · intro i t hi
    rw [account_eq hd hi]
    exact List.take_prefix _ _
  · exact fun i t hi r => held_account hd hi r
  · intro i t hi hrunning r
    have hfits := horderly.fits i t hi
    rw [hrunning] at hfits
    rw [account_eq hd hi, hfits.dealings_of_running]
    cases r <;> rfl
  · intro i t hi hterminated
    have hfits := horderly.fits i t hi
    rw [hterminated] at hfits
    rw [account_eq hd hi, hfits.finished_of_terminated]
    rfl
  · exact hcounts.allocated_eq
  · exact fun hcreations => hcounts.toNat_allocated (by rwa [Nat.zero_add])
  · intro hall
    have hcounters := counters_of_all_terminated hd hall
    exact ⟨hcounters, isBalanced_of_counters hcounters⟩

-- The first thread asks for its end, stops its own unwinding and starts a second one, which
-- panics.
theorem thread_lifecycle_of_two :
    let events : List Event :=
      [.context "a" 16,
        .create "main" "a" 16 1 [.attempt [.terminate], .create "b" 32 2 [.panic], .observe] true] ++
      [0, 0, 0, 0, 0, 0, 0, 0, 0, 0, 1, 1, 0, 1, 0, 0, 1, 1, 0, 1, 0, 0, 1, 1, 0, 0, 1, 0].map .step
    let p := (start .portable 0).after events
    p.Distinct ∧ p.threads.map (p.status ·.context) = [.terminated, .terminating] ∧
      Lived (start .portable 0) events p := by
  intro events p
  have hd : p.Distinct := by
    rw [Distinct]
    decide +kernel
  exact ⟨hd, by decide +kernel, thread_lifecycle .portable 0 events hd⟩

end Pool

end VmLauncher.Threads
