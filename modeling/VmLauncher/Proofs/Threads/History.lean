import VmLauncher.Proofs.Threads.Steps
-- Threads of one instance from its start on, in any order of their steps.
namespace VmLauncher.Threads

-- What can happen to a pool.
inductive Event where
  | context (name : String) (address : Nat)
  -- A thread that no instance made asks for one; the host may refuse it. A refusal to a thread
  -- of the pool comes in this way too, with the name of that thread.
  | create (creator name : String) (address framePointer : Nat) (script : List Action)
      (granted : Bool)
  | letGo (name : String)
  | step (thread : Nat)

def Event.actor? : Event → Option Nat
  | .step i => some i
  | _ => none

theorem Event.eq_step {e : Event} {i : Nat} (h : e.actor? = some i) : e = .step i := by
  cases e with
  | step j => rw [Option.some.inj h]
  | context | create | letGo => contradiction

namespace Pool

def start (substrate : Monitor.Substrate) (verbose : UInt32) : Pool :=
  { owner := { substrate, verbose } }

def occur (p : Pool) : Event → Pool
  | .context name address => p.addContext name address
  | .create creator name address framePointer script granted =>
      (p.create creator name address framePointer script granted).2
  | .letGo name => p.letGo name
  | .step i => p.step i

def after (p : Pool) (events : List Event) : Pool := events.foldl occur p

-- Every thread has a context to itself.
def Distinct (p : Pool) : Prop := (p.threads.map Thread.context).Nodup

def request? (p : Pool) : Event → Option Request
  | .create creator name address framePointer script granted =>
      some ⟨creator, name, address, framePointer, script, granted⟩
  | .step i => p.threads[i]?.bind Thread.request?
  | .context .. | .letGo _ => none

-- The creations in the course of some events, with those that the host refused.
def creations (p : Pool) : List Event → List Creation
  | [] => []
  | e :: events => ((p.request? e).map p.creation).toList ++ (p.occur e).creations events

-- Those that a thread came of.
def granted (p : Pool) (events : List Event) : List Creation :=
  (p.creations events).filter (·.granted)

-- A pool with a thread as it is after its step.
def put (p : Pool) (i : Nat) (t : Thread) : Pool := { p with threads := p.threads.set i t }

-- What holds of every pool, whether threads share contexts or not.
structure Sound (p : Pool) : Prop where
  names : p.NamesKnown
  known : ∀ (i : Nat) (t : Thread), p.threads[i]? = some t → t.context < p.contexts.length
  stored : ∀ (i : Nat) (t : Thread), p.threads[i]? = some t → t.Stored

end Pool

-- Two threads that differ at most in what they wait for.
structure Thread.Alike (t u : Thread) : Prop where
  identity : u.identity = t.identity
  stage : u.stage = t.stage
  localState : u.localState = t.localState

-- Nothing happens but that contexts are made or threads are let go on.
structure NoThreadMoves (p q : Pool) : Prop extends ContextsAdded p q where
  owner : q.owner = p.owner
  threads : ∃ f : Thread → Thread, (∀ t : Thread, t.Alike (f t)) ∧ q.threads = p.threads.map f

-- A thread at an index goes on by an act. The pool after it still has the thread as it was.
structure ThreadMoves (p : Pool) (i : Nat) (t : Thread) (act : Act) (t' : Thread) (q : Pool) :
    Prop where
  here : p.threads[i]? = some t
  stage : StageStep t.serial t.stage act t'.stage
  effect : ActEffect p t act q
  identity : t'.identity = t.identity
  stored : t'.Stored

namespace Pool

-- Every way in which an event can go, behind the creation in it, if there is one.
inductive EventOutcome (p : Pool) : Event → Pool → Prop
  | still {e : Event} {q : Pool} (h : NoThreadMoves (p.grant (p.request? e)) q)
      (he : e.actor? = none ∨ q = p) : EventOutcome p e q
  | moves {i : Nat} {t t' : Thread} {act : Act} {q : Pool} (here : p.threads[i]? = some t)
      (alone : t.request? = none ∨ act = .nothing)
      (h : ThreadMoves (p.grant (p.request? (.step i))) i t act t' q) :
      EventOutcome p (.step i) (q.put i t')

end Pool

-- The same threads, by what they were made with, and contexts that others know as before.
structure SameIdentities (p q : Pool) : Prop where
  contexts_le : p.contexts.length ≤ q.contexts.length
  address : ∀ j < p.contexts.length, q.address j = p.address j
  nextSerial : q.owner.nextSerial = p.owner.nextSerial
  identities : q.threads.map Thread.identity = p.threads.map Thread.identity

-- What an event adds, by the creation in it, if there is one.
structure IdentitiesGrow (p : Pool) (o : Option Creation) (q : Pool) : Prop where
  contexts_le : p.contexts.length ≤ q.contexts.length
  address : ∀ j < p.contexts.length, q.address j = p.address j
  nextSerial : q.owner.nextSerial = p.owner.nextSerial + .ofNat o.toList.length
  serial : ∀ c ∈ o, c.identity.serial = p.owner.nextSerial
  given : ∀ c ∈ o, c.identity.context < q.contexts.length ∧
    q.address c.identity.context = c.address
  identities : q.threads.map Thread.identity =
    p.threads.map Thread.identity ++ (o.toList.filter (·.granted)).map Creation.identity

theorem map_set_eq {α β : Type} (f : α → β) {l : List α} {i : Nat} {a b : α}
    (hi : l[i]? = some a) (h : f b = f a) : (l.set i b).map f = l.map f := by
  obtain ⟨hlt, rfl⟩ := List.getElem?_eq_some_iff.mp hi
  rw [List.map_set, h, ← List.getElem_map f (h := by simpa using hlt), List.set_getElem_self]

section Alike

variable {t u : Thread}

theorem Thread.Alike.refl (t : Thread) : t.Alike t := ⟨rfl, rfl, rfl⟩

theorem Thread.Alike.serial (h : t.Alike u) : u.serial = t.serial :=
  congrArg Identity.serial h.identity

theorem Thread.Alike.context (h : t.Alike u) : u.context = t.context :=
  congrArg Identity.context h.identity

theorem Thread.Alike.framePointer (h : t.Alike u) : u.framePointer = t.framePointer :=
  congrArg Identity.framePointer h.identity

theorem Thread.Alike.stored (h : t.Alike u) (hs : t.Stored) : u.Stored := by
  rw [Stored, h.localState, h.stage, h.context, h.serial]
  exact hs

end Alike

section NoThreadMoves

variable {p q : Pool} {i : Nat} {t u : Thread}

theorem NoThreadMoves.of_added (h : ContextsAdded p q) (owner : q.owner = p.owner)
    (threads : q.threads = p.threads) : NoThreadMoves p q :=
  ⟨h, owner, id, Thread.Alike.refl, by rw [threads, List.map_id]⟩

theorem NoThreadMoves.refl (p : Pool) : NoThreadMoves p p := .of_added (.refl p) rfl rfl

theorem NoThreadMoves.getElem? (h : NoThreadMoves p q) (hi : p.threads[i]? = some t) :
    ∃ u, q.threads[i]? = some u ∧ t.Alike u := by
  obtain ⟨f, hf, hthreads⟩ := h.threads
  exact ⟨f t, by simp [hthreads, hi], hf t⟩

theorem NoThreadMoves.of_getElem? (h : NoThreadMoves p q) (hu : q.threads[i]? = some u) :
    ∃ t, p.threads[i]? = some t ∧ t.Alike u := by
  obtain ⟨f, hf, hthreads⟩ := h.threads
  rw [hthreads, List.getElem?_map, Option.map_eq_some_iff] at hu
  obtain ⟨t, ht, rfl⟩ := hu
  exact ⟨t, ht, hf t⟩

theorem NoThreadMoves.sameIdentities (h : NoThreadMoves p q) : SameIdentities p q := by
  obtain ⟨f, hf, hthreads⟩ := h.threads
  refine ⟨h.contexts_le, h.address, congrArg Instance.nextSerial h.owner, ?_⟩
  rw [hthreads, List.map_map]
  exact List.map_congr_left fun t _ => (hf t).identity

end NoThreadMoves

section ThreadMoves

variable {p q : Pool} {i j : Nat} {t t' u : Thread} {act : Act}

theorem ThreadMoves.context (h : ThreadMoves p i t act t' q) : t'.context = t.context :=
  congrArg Identity.context h.identity

theorem ThreadMoves.getElem?_self (h : ThreadMoves p i t act t' q) :
    (q.put i t').threads[i]? = some t' := by
  rw [Pool.put, h.effect.threads,
    List.getElem?_set_self (List.getElem?_eq_some_iff.mp h.here).1]

theorem ThreadMoves.getElem?_of_ne (h : ThreadMoves p i t act t' q) (hj : j ≠ i) :
    (q.put i t').threads[j]? = p.threads[j]? := by
  rw [Pool.put, h.effect.threads, List.getElem?_set_ne (Ne.symm hj)]

theorem ThreadMoves.getElem?_cases (h : ThreadMoves p i t act t' q)
    (hj : (q.put i t').threads[j]? = some u) :
    j = i ∧ u = t' ∨ j ≠ i ∧ p.threads[j]? = some u := by
  by_cases hij : j = i
  · subst hij
    rw [h.getElem?_self, Option.some.injEq] at hj
    exact .inl ⟨rfl, hj.symm⟩
  · rw [h.getElem?_of_ne hij] at hj
    exact .inr ⟨hij, hj⟩

theorem ThreadMoves.sameIdentities (h : ThreadMoves p i t act t' q) :
    SameIdentities p (q.put i t') := by
  refine ⟨Nat.le_of_eq h.effect.contexts.symm, fun j _ => h.effect.address j,
    h.effect.nextSerial, ?_⟩
  rw [Pool.put, h.effect.threads]
  exact map_set_eq Thread.identity h.here h.identity

end ThreadMoves

theorem SameIdentities.contexts {p q : Pool} (h : SameIdentities p q) :
    q.threads.map Thread.context = p.threads.map Thread.context := by
  have hcontexts := congrArg (List.map Identity.context) h.identities
  rw [List.map_map, List.map_map] at hcontexts
  exact hcontexts

theorem CreationMade.grow {p q r : Pool} {o : Option Creation} (h : CreationMade p o q)
    (hsame : SameIdentities q r) : IdentitiesGrow p o r := by
  obtain ⟨new, hthreads, hnew, -⟩ := h.threads
  refine ⟨Nat.le_trans h.contexts_le hsame.contexts_le, fun j hj => ?_,
    hsame.nextSerial.trans h.nextSerial, h.serial, fun c hc => ⟨?_, ?_⟩, ?_⟩
  · exact (hsame.address j (Nat.lt_of_lt_of_le hj h.contexts_le)).trans (h.address j hj)
  · exact Nat.lt_of_lt_of_le (h.context c hc) hsame.contexts_le
  · exact (hsame.address _ (h.context c hc)).trans (h.given c hc)
  · rw [hsame.identities, hthreads, List.map_append, hnew]

namespace Pool

variable {p q : Pool} {e : Event} {i : Nat} {t u : Thread} {events : List Event}

theorem letGo_still (p : Pool) (name : String) : NoThreadMoves p (p.letGo name) := by
  unfold letGo
  split
  · exact .refl p
  · refine ⟨.of_eq rfl rfl rfl, rfl, _, fun t => ?_, rfl⟩
    dsimp only
    split_ifs <;> exact ⟨rfl, rfl, rfl⟩

-- A thread that asks for a creation can go on.
theorem request?_eq_none {t : Thread} (h : t.canStep = false) : t.request? = none := by
  unfold Thread.request?
  split
  · next hstage => simp [Thread.canStep, Thread.isFinished, Thread.isBlocked, hstage] at h
  · rfl

theorem request?_step (h : p.threads[i]? = some t) : p.request? (.step i) = t.request? := by
  rw [request?, h, Option.bind_some]

-- What a thread asks for is granted.
theorem request?_of_not_granted (h : p.threads[i]? = some t)
    (hrefused : ∀ c ∈ (p.request? (.step i)).map p.creation, c.granted = false) :
    t.request? = none := by
  rw [request?_step h] at hrefused
  rcases hr : t.request? with _ | r
  · rfl
  · have hgranted := hrefused (p.creation r) (by simp [hr])
    rw [creation_eq, Thread.granted_of_request? hr] at hgranted
    contradiction

theorem occur_step (hi : p.threads[i]? = some t) (hc : t.canStep = true) :
    p.occur (.step i) = (p.stepThread t).1.put i (p.stepThread t).2 := by
  simp only [occur, step, hi, hc, if_true]
  rfl

-- A step of a thread that cannot go on, or is not there.
theorem occur_idle_step (h : ∀ t, p.threads[i]? = some t → t.canStep = false) :
    p.occur (.step i) = p ∧ p.request? (.step i) = none := by
  rcases hi : p.threads[i]? with _ | t
  · refine ⟨?_, ?_⟩ <;> simp only [request?, occur, step, hi, Option.bind_none]
  · have hc := h t hi
    refine ⟨?_, ?_⟩
    · simp only [occur, step, hi, hc, Bool.false_eq_true, if_false]
    · rw [request?_step hi, request?_eq_none hc]

theorem occur_outcome (hp : p.Sound) (e : Event) : EventOutcome p e (p.occur e) := by
  cases e with
  | context name address =>
      exact .still (.of_added (p.addContext_adds name address) rfl rfl) (.inl rfl)
  | create => exact .still (.refl _) (.inl rfl)
  | letGo name => exact .still (p.letGo_still name) (.inl rfl)
  | step i =>
      by_cases hidle : ∀ t, p.threads[i]? = some t → t.canStep = false
      · obtain ⟨hsame, hnone⟩ := occur_idle_step hidle
        refine .still ?_ (.inr hsame)
        rw [hsame, hnone]
        exact .refl p
      · simp only [Classical.not_forall, Bool.not_eq_false] at hidle
        obtain ⟨t, hi, hc⟩ := hidle
        obtain ⟨act, hstep⟩ := stepThread_step (hp.known i t hi) (hp.stored i t hi) hc
        have hhere := (grant_made hp.names (p.request? (.step i))).getElem? hi
        rw [occur_step hi hc]
        refine .moves hi hstep.alone ⟨hhere, hstep.stage, ?_, hstep.identity, hstep.stored⟩
        rw [request?_step hi]
        exact hstep.effect

theorem sound_start (substrate : Monitor.Substrate) (verbose : UInt32) :
    (start substrate verbose).Sound where
  names := by simp [NamesKnown, start]
  known i t hi := by simp [start] at hi
  stored i t hi := by simp [start] at hi

theorem Sound.creationMade (hp : p.Sound) {o : Option Creation} (h : CreationMade p o q) :
    q.Sound := by
  refine ⟨h.names hp.names, fun i u hi => ?_, fun i u hi => ?_⟩
  · rcases h.getElem?_cases hi with ht | ⟨-, -, -, hcontext⟩
    · exact Nat.lt_of_lt_of_le (hp.known i u ht) h.contexts_le
    · exact hcontext
  · rcases h.getElem?_cases hi with ht | ⟨-, hstage, hlocal, -⟩
    · exact hp.stored i u ht
    · rw [Thread.Stored, hlocal, hstage]
      rfl

theorem Sound.noThreadMoves (hp : p.Sound) (h : NoThreadMoves p q) : q.Sound := by
  refine ⟨h.names hp.names, fun i u hi => ?_, fun i u hi => ?_⟩
  · obtain ⟨t, ht, ha⟩ := h.of_getElem? hi
    rw [ha.context]
    exact Nat.lt_of_lt_of_le (hp.known i t ht) h.contexts_le
  · obtain ⟨t, ht, ha⟩ := h.of_getElem? hi
    exact ha.stored (hp.stored i t ht)

theorem Sound.threadMoves (hp : p.Sound) {t' : Thread} {act : Act}
    (h : ThreadMoves p i t act t' q) : (q.put i t').Sound := by
  have hcontexts : (q.put i t').contexts.length = p.contexts.length := h.effect.contexts
  have hnames : (q.put i t').names = p.names := h.effect.names
  refine ⟨fun entry he => ?_, fun j u hj => ?_, fun j u hj => ?_⟩
  · rw [hnames] at he
    rw [hcontexts]
    exact hp.names entry he
  · rw [hcontexts]
    rcases h.getElem?_cases hj with ⟨-, rfl⟩ | ⟨-, hu⟩
    · exact h.context ▸ hp.known i t h.here
    · exact hp.known j u hu
  · rcases h.getElem?_cases hj with ⟨-, rfl⟩ | ⟨-, hu⟩
    · exact h.stored
    · exact hp.stored j u hu

theorem Sound.granted (hp : p.Sound) (o : Option Request) : (p.grant o).Sound :=
  hp.creationMade (grant_made hp.names o)

theorem Sound.outcome (hp : p.Sound) (h : EventOutcome p e q) : q.Sound := by
  cases h with
  | still h => exact (hp.granted _).noThreadMoves h
  | moves _ _ h => exact (hp.granted _).threadMoves h

theorem Sound.occur (hp : p.Sound) (e : Event) : (p.occur e).Sound :=
  hp.outcome (occur_outcome hp e)

theorem Sound.after (hp : p.Sound) (events : List Event) : (p.after events).Sound := by
  induction events generalizing p with
  | nil => exact hp
  | cons e events ih => exact ih (hp.occur e)

theorem EventOutcome.grow (h : EventOutcome p e q) (hp : p.Sound) :
    IdentitiesGrow p ((p.request? e).map p.creation) q := by
  have hmade := grant_made hp.names (p.request? e)
  cases h with
  | still h => exact hmade.grow h.sameIdentities
  | moves _ _ h => exact hmade.grow h.sameIdentities

theorem occur_grows (hp : p.Sound) (e : Event) :
    IdentitiesGrow p ((p.request? e).map p.creation) (p.occur e) :=
  (occur_outcome hp e).grow hp

theorem identities_after (hp : p.Sound) (events : List Event) :
    (p.after events).threads.map Thread.identity =
      p.threads.map Thread.identity ++ (p.granted events).map Creation.identity := by
  induction events generalizing p with
  | nil => simp [after, granted, creations]
  | cons e events ih =>
      have hlater := ih (hp.occur e)
      rw [(occur_grows hp e).identities] at hlater
      rw [granted, creations, List.filter_append, List.map_append, ← List.append_assoc]
      exact hlater

-- Threads keep their contexts, so those that share none at the end have never shared one.
theorem Distinct.of_after (hp : p.Sound) (hd : (p.after events).Distinct) : p.Distinct := by
  have hcontexts := congrArg (List.map Identity.context) (identities_after hp events)
  rw [List.map_append, List.map_map, List.map_map] at hcontexts
  have hprefix : p.threads.map Thread.context <+: (p.after events).threads.map Thread.context :=
    ⟨_, hcontexts.symm⟩
  exact hd.sublist hprefix.sublist

-- What every event keeps, as long as threads share no context, holds behind any number of them.
theorem after_induction {holds : Pool → Prop}
    (hstep : ∀ (p q : Pool) (e : Event), p.Sound → holds p → EventOutcome p e q → q.Distinct →
      holds q)
    (hs : p.Sound) (hp : holds p) (hd : (p.after events).Distinct) : holds (p.after events) := by
  induction events generalizing p with
  | nil => exact hp
  | cons e events ih =>
      have hsound := hs.occur e
      exact ih hsound (hstep _ _ e hs hp (occur_outcome hs e) (Distinct.of_after hsound hd)) hd

theorem Distinct.of_same (hd : q.Distinct) (h : SameIdentities p q) : p.Distinct := by
  rw [Distinct, ← h.contexts]
  exact hd

theorem Distinct.eq_of_context (hd : p.Distinct) {j : Nat} (hi : p.threads[i]? = some t)
    (hj : p.threads[j]? = some u) (h : u.context = t.context) : j = i := by
  have hti : (p.threads.map Thread.context)[i]? = some t.context := by simp [hi]
  have huj : (p.threads.map Thread.context)[j]? = some t.context := by simp [hj, h]
  have hlt := (List.getElem?_eq_some_iff.mp huj).1
  exact (List.getElem?_inj hlt hd).mp (huj.trans hti.symm)

-- A thread stays where it is unless it makes the step itself.
theorem EventOutcome.bystander (h : EventOutcome p e q) (hp : p.Sound)
    (hi : p.threads[i]? = some t) (he : e.actor? ≠ some i) :
    ∃ u, q.threads[i]? = some u ∧ t.Alike u := by
  have hmid := (grant_made hp.names (p.request? e)).getElem? hi
  cases h with
  | still h => exact h.getElem? hmid
  | @moves j _ t' _ _ _ _ h =>
      have hj : i ≠ j := fun hj => he (congrArg some hj.symm)
      exact ⟨t, (h.getElem?_of_ne hj).trans hmid, .refl t⟩

-- A thread that was not there before is at its start.
theorem EventOutcome.starting (h : EventOutcome p e q) (hp : p.Sound)
    (hi : p.threads[i]? = none) (hu : q.threads[i]? = some u) : u.stage = .starting := by
  have hstarting {v : Thread} (hv : (p.grant (p.request? e)).threads[i]? = some v) :
      v.stage = .starting := by
    rcases (grant_made hp.names _).getElem?_cases hv with hsome | ⟨-, hstage, -⟩
    · rw [hi] at hsome
      contradiction
    · exact hstage
  cases h with
  | still h =>
      obtain ⟨t, ht, ha⟩ := h.of_getElem? hu
      exact ha.stage.trans (hstarting ht)
  | moves here _ h =>
      rcases h.getElem?_cases hu with ⟨rfl, -⟩ | ⟨-, hv⟩
      · rw [hi] at here
        contradiction
      · exact hstarting hv

end Pool

end VmLauncher.Threads
