import VmLauncher.Proofs.Threads.Lifecycle
import VmLauncher.Proofs.Threads.Unwinding
-- What each thread sees of itself, in any order of the steps of threads: it is what the thread
-- was made with, and no other thread has a part in it.
namespace VmLauncher.Threads

namespace Stage

-- Whether the context of a thread at a stage holds the thread's frame pointer.
def hasFrame : Stage → Bool
  | .starting | .stackInstalled | .terminationCaptured | .stateStored => false
  | _ => true

-- Whether the entry point of a thread at a stage has been called.
def entered : Stage → Bool
  | .starting | .stackInstalled | .terminationCaptured | .stateStored | .frameStored => false
  | _ => true

-- What the entry point of a thread at a stage is left by.
def cause? : Stage → Option Departure
  | .unwinding cause _ => some cause
  | .left how | .closing how | .stateCleared how | .stackReleased how | .terminationReleased how
  | .argumentsReleased how => some how
  | _ => none

end Stage

-- A thread that is ended by a request is ended by its own.
def Thread.OwnRequest (t : Thread) : Prop :=
  ∀ n, t.stage.cause? = some (.terminated n) → n = t.serial

section StageStep

variable {serial : UInt64} {stage stage' : Stage} {act : Act}

-- The entry point is called once, on the way into the stages behind that.
theorem StageStep.calls (h : StageStep serial stage act stage') (address framePointer : Nat) :
    (if stage.entered then [(address, framePointer)] else []) ++ act.calls address framePointer =
      if stage'.entered then [(address, framePointer)] else [] := by
  cases h <;> rfl

theorem StageStep.framePointer (h : StageStep serial stage act stage') {own stored : Nat}
    (hframe : stage'.hasFrame = true) (hstored : stage.hasFrame = true → stored = own) :
    act.onFramePointer own stored = own := by
  cases h with
  | frame => rfl
  | install | capture | store => contradiction
  | _ => exact hstored rfl

theorem StageStep.ownRequest (h : StageStep serial stage act stage')
    (hown : ∀ n, stage.cause? = some (.terminated n) → n = serial) (n : UInt64)
    (hn : stage'.cause? = some (.terminated n)) : n = serial := by
  cases h with
  | ask =>
      simp only [Stage.cause?, Option.some.injEq, Departure.terminated.injEq] at hn
      exact hn.symm
  | unwind | unwound | close | clear | dropStack | dropTermination | dropArguments =>
      exact hown n hn
  | _ => simp [Stage.cause?] at hn

end StageStep

namespace Pool

-- The calls of the entry point of a thread in the course of some events.
def callsOf (p : Pool) (i : Nat) : List Event → List (Nat × Nat)
  | [] => []
  | e :: events =>
      (if e.actor? = some i then (p.occur e).calls.drop p.calls.length else []) ++
        (p.occur e).callsOf i events

-- The call that a thread has had by now.
def callBy (p : Pool) (i : Nat) : List (Nat × Nat) :=
  match p.threads[i]? with
  | some t => if t.stage.entered then [(p.address t.context, t.framePointer)] else []
  | none => []

variable {p q : Pool} {e : Event} {events : List Event} {i : Nat} {t : Thread}

-- Serials are given out one after the other, also those of creations that are refused.
theorem serials_of_creations (hp : p.Sound) (events : List Event) :
    (p.creations events).map (·.identity.serial) =
      (List.range (p.creations events).length).map fun k => p.owner.nextSerial + .ofNat k := by
  induction events generalizing p with
  | nil => rfl
  | cons e events ih =>
      have hgrows := occur_grows hp e
      have hlater := ih (hp.occur e)
      rw [creations]
      rcases ho : (p.request? e).map p.creation with _ | c
      · rw [hgrows.nextSerial, ho] at hlater
        simpa using hlater
      · have hlength : (((some c).toList ++ (p.occur e).creations events)).length =
            ((p.occur e).creations events).length + 1 := rfl
        have hfirst : c.identity.serial = p.owner.nextSerial + .ofNat 0 :=
          (hgrows.serial c ho).trans (UInt64.add_zero _).symm
        rw [hlength, List.range_succ_eq_map, List.map_cons, List.map_map, ← hfirst]
        refine congrArg (c.identity.serial :: ·) (hlater.trans (List.map_congr_left fun k _ => ?_))
        rw [hgrows.nextSerial, ho, UInt64.add_assoc, ← UInt64.ofNat_add, Nat.add_comm]
        rfl

-- As long as a word can hold the number of creations, serials do not begin anew.
theorem serials_toNat (hp : p.Sound) (hfirst : p.owner.nextSerial = 1)
    (hn : (p.creations events).length < UInt64.size) :
    (p.creations events).map (·.identity.serial.toNat) =
      List.range' 1 (p.creations events).length := by
  have hserials := congrArg (List.map UInt64.toNat) (serials_of_creations hp events)
  rw [List.map_map, List.map_map, hfirst] at hserials
  refine hserials.trans ?_
  rw [List.range'_eq_map_range]
  refine List.map_congr_left fun k hk => ?_
  have hk : k < (p.creations events).length := List.mem_range.mp hk
  have hword : (1 : UInt64) + .ofNat k = .ofNat (1 + k) := (UInt64.ofNat_add 1 k).symm
  rw [Function.comp_apply, hword]
  exact UInt64.toNat_ofNat_of_lt' (by omega)

theorem address_after (hp : p.Sound) (events : List Event) :
    p.contexts.length ≤ (p.after events).contexts.length ∧
      ∀ j < p.contexts.length, (p.after events).address j = p.address j := by
  induction events generalizing p with
  | nil => exact ⟨Nat.le_refl _, fun _ _ => rfl⟩
  | cons e events ih =>
      have hgrows := occur_grows hp e
      obtain ⟨hle, haddress⟩ := ih (hp.occur e)
      refine ⟨Nat.le_trans hgrows.contexts_le hle, fun j hj => ?_⟩
      exact (haddress j (Nat.lt_of_lt_of_le hj hgrows.contexts_le)).trans (hgrows.address j hj)

-- The context of a creation goes on having the address that it had for it.
theorem address_of_creation (hp : p.Sound) {c : Creation} (hc : c ∈ p.creations events) :
    (p.after events).address c.identity.context = c.address := by
  induction events generalizing p with
  | nil => simp [creations] at hc
  | cons e events ih =>
      rcases List.mem_append.mp hc with hnow | hlater
      · obtain ⟨hlt, hgiven⟩ := (occur_grows hp e).given c (by simpa using hnow)
        exact ((address_after (hp.occur e) events).2 _ hlt).trans hgiven
      · exact ih (hp.occur e) hlater

section Calls

theorem callBy_of_getElem? (hi : p.threads[i]? = some t) :
    p.callBy i = if t.stage.entered then [(p.address t.context, t.framePointer)] else [] := by
  simp [callBy, hi]

theorem EventOutcome.callBy_eq (h : EventOutcome p e q) (hp : p.Sound)
    (hsame : ∀ t, p.threads[i]? = some t → ∃ u, q.threads[i]? = some u ∧
      u.identity = t.identity ∧ u.stage.entered = t.stage.entered) : q.callBy i = p.callBy i := by
  rcases hi : p.threads[i]? with _ | t
  · rcases hu : q.threads[i]? with _ | u
    · simp [callBy, hi, hu]
    · simp [callBy, hi, hu, h.starting hp hi hu, Stage.entered]
  · obtain ⟨u, hu, hidentity, hentered⟩ := hsame t hi
    have hcontext : u.context = t.context := congrArg Identity.context hidentity
    have hframe : u.framePointer = t.framePointer := congrArg Identity.framePointer hidentity
    rw [callBy_of_getElem? hu, callBy_of_getElem? hi, hentered, hcontext, hframe,
      (h.grow hp).address _ (hp.known i t hi)]

-- The calls that an own step adds.
theorem EventOutcome.callBy_own (h : EventOutcome p (.step i) q) (hp : p.Sound) :
    p.callBy i ++ q.calls.drop p.calls.length = q.callBy i := by
  have houtcome := h
  have hmade := grant_made hp.names (p.request? (.step i))
  cases h with
  | still h =>
      have hcalls : q.calls = p.calls := h.calls.trans hmade.calls
      rw [hcalls, List.drop_length, List.append_nil, houtcome.callBy_eq hp fun t ht => ?_]
      obtain ⟨u, hu, ha⟩ := h.getElem? (hmade.getElem? ht)
      exact ⟨u, hu, ha.identity, by rw [ha.stage]⟩
  | @moves _ t t' act q here _ h =>
      have hcalls : (q.put i t').calls =
          p.calls ++ act.calls (p.address t.context) t.framePointer := by
        have haddress := hmade.address _ (hp.known i t here)
        refine h.effect.calls.trans ?_
        rw [hmade.calls, haddress]
      have hframe : t'.framePointer = t.framePointer := congrArg Identity.framePointer h.identity
      have haddress := (houtcome.grow hp).address _ (hp.known i t here)
      rw [callBy_of_getElem? here, callBy_of_getElem? h.getElem?_self, hcalls, List.drop_left,
        h.context, hframe, haddress]
      exact h.stage.calls _ _

theorem callBy_after (hp : p.Sound) (i : Nat) (events : List Event) :
    p.callBy i ++ p.callsOf i events = (p.after events).callBy i := by
  induction events generalizing p with
  | nil => simp [callsOf, after]
  | cons e events ih =>
      have houtcome := occur_outcome hp e
      rw [callsOf, ← List.append_assoc]
      by_cases he : e.actor? = some i
      · obtain rfl := Event.eq_step he
        rw [if_pos he, houtcome.callBy_own hp]
        exact ih (hp.occur _)
      · rw [if_neg he, List.append_nil, ← houtcome.callBy_eq hp fun t ht => ?_]
        · exact ih (hp.occur e)
        · obtain ⟨u, hu, ha⟩ := houtcome.bystander hp ht he
          exact ⟨u, hu, ha.identity, by rw [ha.stage]⟩

end Calls

-- What threads hold on to: their contexts hold the frame pointers that they were made with, and
-- they are ended by no request but their own.
structure OwnRecords (p : Pool) : Prop where
  frame : ∀ (i : Nat) (t : Thread), p.threads[i]? = some t → t.stage.hasFrame = true →
    p.framePointer t.context = t.framePointer
  request : ∀ (i : Nat) (t : Thread), p.threads[i]? = some t → t.OwnRequest

section OwnRecords

theorem ownRecords_start (substrate : Monitor.Substrate) (verbose : UInt32) :
    (start substrate verbose).OwnRecords where
  frame i t hi := by simp [start] at hi
  request i t hi := by simp [start] at hi

theorem OwnRecords.creationMade (hp : p.OwnRecords) {o : Option Creation}
    (h : CreationMade p o q) : q.OwnRecords := by
  refine ⟨fun i u hu hframe => ?_, fun i u hu n hn => ?_⟩
  · rcases h.getElem?_cases hu with hi | ⟨-, hstage, -⟩
    · rw [h.framePointer]
      exact hp.frame i u hi hframe
    · rw [hstage] at hframe
      contradiction
  · rcases h.getElem?_cases hu with hi | ⟨-, hstage, -⟩
    · exact hp.request i u hi n hn
    · rw [hstage] at hn
      contradiction

theorem OwnRecords.noThreadMoves (hp : p.OwnRecords) (h : NoThreadMoves p q) : q.OwnRecords := by
  refine ⟨fun i u hu hframe => ?_, fun i u hu n hn => ?_⟩
  · obtain ⟨t, ht, ha⟩ := h.of_getElem? hu
    rw [h.framePointer, ha.context, ha.framePointer]
    exact hp.frame i t ht (ha.stage ▸ hframe)
  · obtain ⟨t, ht, ha⟩ := h.of_getElem? hu
    rw [ha.serial]
    exact hp.request i t ht n (ha.stage ▸ hn)

-- A thread stores its frame pointer in no context but its own.
theorem OwnRecords.threadMoves (hp : p.OwnRecords) (hd : p.Distinct) {t' : Thread} {act : Act}
    (h : ThreadMoves p i t act t' q) : (q.put i t').OwnRecords := by
  have hpointer : t'.framePointer = t.framePointer := congrArg Identity.framePointer h.identity
  have hserial : t'.serial = t.serial := congrArg Identity.serial h.identity
  have hstored : ∀ j, (q.put i t').framePointer j =
      if j = t.context then act.onFramePointer t.framePointer (p.framePointer j)
      else p.framePointer j := h.effect.framePointer
  refine ⟨fun j u hu hframe => ?_, fun j u hu n hn => ?_⟩
  · rcases h.getElem?_cases hu with ⟨rfl, rfl⟩ | ⟨hj, hu⟩
    · rw [h.context, hpointer, hstored, if_pos rfl]
      exact h.stage.framePointer hframe (hp.frame j t h.here)
    · rw [hstored, if_neg fun hcontext => hj (hd.eq_of_context h.here hu hcontext)]
      exact hp.frame j u hu hframe
  · rcases h.getElem?_cases hu with ⟨rfl, rfl⟩ | ⟨-, hu⟩
    · rw [hserial]
      exact h.stage.ownRequest (hp.request j t h.here) n hn
    · exact hp.request j u hu n hn

theorem OwnRecords.outcome (hs : p.Sound) (hp : p.OwnRecords) (h : EventOutcome p e q)
    (hd : q.Distinct) : q.OwnRecords := by
  have hmid := hp.creationMade (grant_made hs.names (p.request? e))
  cases h with
  | still h => exact hmid.noThreadMoves h
  | moves _ _ h => exact hmid.threadMoves (hd.of_same h.sameIdentities) h

theorem OwnRecords.after (hs : p.Sound) (hp : p.OwnRecords) (hd : (p.after events).Distinct) :
    (p.after events).OwnRecords :=
  after_induction (fun _ _ _ hs hp h hd => hp.outcome hs h hd) hs hp hd

end OwnRecords

-- What a thread sees of itself, by the creation that it came of. While its entry point runs, the
-- thread has its state, and the frame pointer is stored.
structure Sees (p : Pool) (t : Thread) (c : Creation) : Prop where
  address : p.address c.identity.context = c.address
  framePointer : t.stage.hasFrame = true →
    p.framePointer c.identity.context = c.identity.framePointer
  stored : t.stage.hasState = true →
    p.currentContext? (some t) = some (p.context c.identity.context) ∧
      currentSerial? (some t) = some c.identity.serial ∧ p.currentAddress (some t) = c.address
  cleared : t.stage.hasState = false →
    p.currentContext? (some t) = none ∧ currentSerial? (some t) = none ∧
      p.currentAddress (some t) = 0

-- What some events have made of a pool that no thread was in.
structure Separate (first : Pool) (events : List Event) (p : Pool) : Prop where
  -- Serials are words: a process that has made all of them begins anew.
  positive : (first.creations events).length < UInt64.size →
    ∀ c ∈ first.creations events, 0 < c.identity.serial
  different : (first.creations events).length < UInt64.size →
    ((first.creations events).map (·.identity.serial)).Nodup
  -- There is one thread for each creation that was granted.
  made : p.threads.map Thread.identity = (first.granted events).map Creation.identity
  called : ∀ (i : Nat) (t : Thread) (c : Creation), p.threads[i]? = some t →
    (first.granted events)[i]? = some c → first.callsOf i events =
      if t.stage.entered then [(c.address, c.identity.framePointer)] else []
  sees : ∀ (i : Nat) (t : Thread) (c : Creation), p.threads[i]? = some t →
    (first.granted events)[i]? = some c → p.Sees t c
  -- A thread that no instance made.
  unmanaged : p.currentContext? none = none ∧ currentSerial? none = none ∧
    p.currentAddress none = 0
  request : ∀ t ∈ p.threads, t.OwnRequest
  -- Whatever else happens, a request is taken by the start routine of the thread that made it,
  -- unless a frame of the same thread stops it before.
  taken : ∀ (i : Nat) (t : Thread) (rest : List Action) (frames : List Frame) (more : List Event),
    p.threads[i]? = some t → t.stage = .running (.rest (.terminate :: rest) :: frames) →
    more.countP (·.isStepOf i) = distance frames + 2 →
    ∃ u, (p.after more).threads[i]? = some u ∧ u.stage = landing (.terminated t.serial) frames ∧
      ((∀ f ∈ frames, f ≠ .attempt) → u.stage = .left (.terminated t.serial))

theorem Sees.of_identity (hs : p.Sound) (hp : p.OwnRecords) (hi : p.threads[i]? = some t)
    {c : Creation} (hidentity : t.identity = c.identity)
    (haddress : p.address c.identity.context = c.address) :
    p.Sees t c := by
  have hstored := hs.stored i t hi
  refine ⟨haddress, fun hframe => ?_, fun hstate => ?_, fun hstate => ?_⟩
  · rw [← hidentity]
    exact hp.frame i t hi hframe
  · rw [Thread.Stored, hstate, if_pos rfl] at hstored
    simp only [currentContext?, currentSerial?, currentAddress, Option.bind_some, hstored,
      Option.map_some, Option.getD_some, ← haddress, ← hidentity]
    exact ⟨rfl, rfl, rfl⟩
  · rw [Thread.Stored, hstate, if_neg Bool.false_ne_true] at hstored
    simp [currentContext?, currentSerial?, currentAddress, hstored]

-- In any order of the steps of threads, as long as every one has a context to itself.
theorem thread_separation (substrate : Monitor.Substrate) (verbose : UInt32) (events : List Event)
    (hd : ((start substrate verbose).after events).Distinct) :
    Separate (start substrate verbose) events ((start substrate verbose).after events) := by
  have hsound := sound_start substrate verbose
  have hafter := hsound.after events
  have hrecords := (ownRecords_start substrate verbose).after hsound hd
  have hmade := identities_after hsound events
  rw [show (start substrate verbose).threads = [] from rfl, List.map_nil, List.nil_append] at hmade
  have hidentity {i : Nat} {t : Thread} {c : Creation}
      (ht : ((start substrate verbose).after events).threads[i]? = some t)
      (hc : ((start substrate verbose).granted events)[i]? = some c) : t.identity = c.identity := by
    have hsame := congrArg (fun identities => identities[i]?) hmade
    simpa [ht, hc] using hsame
  have haddress {i : Nat} {c : Creation}
      (hc : ((start substrate verbose).granted events)[i]? = some c) :
      ((start substrate verbose).after events).address c.identity.context = c.address :=
    address_of_creation hsound (List.mem_of_mem_filter (List.mem_of_getElem? hc))
  refine ⟨fun hn c hc => ?_, fun hn => ?_, hmade, fun i t c ht hc => ?_, fun i t c ht hc => ?_,
    ⟨rfl, rfl, rfl⟩, fun t ht => ?_, fun i t rest frames more ht hstage hmore => ?_⟩
  · have hmem := List.mem_map_of_mem (f := (·.identity.serial.toNat)) hc
    rw [serials_toNat hsound rfl hn, List.mem_range'_1] at hmem
    exact UInt64.lt_iff_toNat_lt.mpr hmem.1
  · refine List.Nodup.of_map UInt64.toNat ?_
    rw [List.map_map]
    exact serials_toNat hsound rfl hn ▸ List.nodup_range'
  · have hcalls := callBy_after hsound i events
    rw [callBy_of_getElem? ht] at hcalls
    have hcontext : t.context = c.identity.context := congrArg Identity.context (hidentity ht hc)
    have hpointer : t.framePointer = c.identity.framePointer :=
      congrArg Identity.framePointer (hidentity ht hc)
    rw [hcontext, haddress hc, hpointer] at hcalls
    exact hcalls
  · exact .of_identity hafter hrecords ht (hidentity ht hc) (haddress hc)
  · obtain ⟨i, hi⟩ := List.mem_iff_getElem?.mp ht
    exact hrecords.request i t hi
  · obtain ⟨u, hu, hlanding⟩ := terminate_lands hafter ht hstage hmore
    exact ⟨u, hu, hlanding, fun hframes => hlanding.trans (landing_eq_left hframes)⟩

-- One thread starts another, and both are unwound at the same time. Of three serials one is lost
-- with a creation that the host refuses.
theorem thread_separation_of_two :
    let events : List Event :=
      [.context "a" 16, .create "main" "a" 16 1 [.create "b" 32 2 [.terminate], .terminate] true,
        .create "main" "c" 48 3 [] false] ++
      [0, 0, 0, 0, 0, 0, 1, 1, 0, 1, 1, 1, 0, 1].map .step
    let p := (start .portable 0).after events
    p.Distinct ∧
      (start .portable 0).creations events =
        [⟨⟨1, 0, 1⟩, 16, true⟩, ⟨⟨2, 1, 3⟩, 48, false⟩, ⟨⟨3, 2, 2⟩, 32, true⟩] ∧
      (start .portable 0).callsOf 0 events = [(16, 1)] ∧
      (start .portable 0).callsOf 1 events = [(32, 2)] ∧
      Separate (start .portable 0) events p := by
  intro events p
  have hd : p.Distinct := by
    rw [Distinct]
    decide +kernel
  exact ⟨hd, by decide +kernel, by decide +kernel, by decide +kernel,
    thread_separation .portable 0 events hd⟩

end Pool

end VmLauncher.Threads
