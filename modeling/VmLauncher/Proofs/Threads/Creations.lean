import VmLauncher.Proofs.Instance.Balance
import VmLauncher.Threads.Pool
import Mathlib.Tactic.SplitIfs
-- What threads are made with, and what a creation adds to a pool: it uses up a serial, makes a
-- context if there is none of the name, and makes a thread unless the host refuses it.
namespace VmLauncher.Threads

open Instance (Ledger)

-- What a thread is made with, apart from what it runs.
structure Identity where
  serial : UInt64
  context : Nat
  framePointer : Nat
deriving DecidableEq, Repr

def Thread.identity (t : Thread) : Identity := ⟨t.serial, t.context, t.framePointer⟩

-- What a creation is asked for with, and whether the host grants it.
structure Request where
  creator : String
  name : String
  address : Nat
  framePointer : Nat
  script : List Action
  granted : Bool

-- A creation as it went: the serial is given out before the host is asked.
structure Creation where
  identity : Identity
  address : Nat
  granted : Bool
deriving DecidableEq, Repr

-- Start arguments are taken for every creation, and given back at once where it is refused.
def Creation.onLedger (c : Creation) (l : Ledger) : Ledger :=
  if c.granted then l.allocate .startArguments
  else (l.allocate .startArguments).release .startArguments

-- The creation that a thread asks for by its next step.
def Thread.request? (t : Thread) : Option Request :=
  match t.stage with
  | .running (.rest (.create name address framePointer script :: _) :: _) =>
      some ⟨t.name, name, address, framePointer, script, true⟩
  | _ => none

-- The host refuses no thread of the pool.
theorem Thread.granted_of_request? {t : Thread} {r : Request} (h : t.request? = some r) :
    r.granted = true := by
  unfold request? at h
  split at h
  · rw [← Option.some.inj h]
  · contradiction

-- A call of an entry point, as the entry point reports it.
def Note.call? : Note → Option (Nat × Nat)
  | .entered address framePointer => some (address, framePointer)
  | _ => none

namespace Pool

def status (p : Pool) (i : Nat) : Status := (p.context i).status

def address (p : Pool) (i : Nat) : Nat := (p.context i).address

def framePointer (p : Pool) (i : Nat) : Nat := (p.context i).framePointer

-- All calls of entry points, in their order.
def calls (p : Pool) : List (Nat × Nat) := p.notes.filterMap (·.2.call?)

def NamesKnown (p : Pool) : Prop := ∀ entry ∈ p.names, entry.2 < p.contexts.length

def make (p : Pool) (r : Request) : UInt64 × Pool :=
  p.create r.creator r.name r.address r.framePointer r.script r.granted

-- A name that is known stands for the context that has it, and any other for a new context.
def creation (p : Pool) (r : Request) : Creation :=
  match p.named? r.name with
  | some i => ⟨⟨(p.make r).1, i, r.framePointer⟩, p.address i, r.granted⟩
  | none => ⟨⟨(p.make r).1, p.contexts.length, r.framePointer⟩, r.address, r.granted⟩

-- A pool with what a creation makes of it, if one is asked for.
def grant (p : Pool) : Option Request → Pool
  | none => p
  | some r => (p.make r).2

end Pool

-- Contexts more that no thread has run on, and nothing new about those that are there.
structure ContextsAdded (p q : Pool) : Prop where
  contexts_le : p.contexts.length ≤ q.contexts.length
  names : p.NamesKnown → q.NamesKnown
  status : ∀ j, q.status j = p.status j
  address : ∀ j < p.contexts.length, q.address j = p.address j
  framePointer : ∀ j, q.framePointer j = p.framePointer j
  calls : q.calls = p.calls

-- What a creation, if there is one, makes of a pool.
structure CreationMade (p : Pool) (o : Option Creation) (q : Pool) : Prop
    extends ContextsAdded p q where
  nextSerial : q.owner.nextSerial = p.owner.nextSerial + .ofNat o.toList.length
  ledger : q.owner.ledger = o.elim p.owner.ledger (·.onLedger p.owner.ledger)
  serial : ∀ c ∈ o, c.identity.serial = p.owner.nextSerial
  context : ∀ c ∈ o, c.identity.context < q.contexts.length
  given : ∀ c ∈ o, q.address c.identity.context = c.address
  threads : ∃ new : List Thread, q.threads = p.threads ++ new ∧
    new.map Thread.identity = (o.toList.filter (·.granted)).map Creation.identity ∧
    ∀ t ∈ new, t.stage = .starting ∧ t.localState = none

theorem ContextsAdded.of_eq {p q : Pool} (contexts : q.contexts = p.contexts)
    (names : q.names = p.names) (notes : q.notes = p.notes) : ContextsAdded p q := by
  have hcontext (j : Nat) : q.context j = p.context j := by
    rw [Pool.context, contexts, Pool.context]
  constructor
  · exact Nat.le_of_eq (congrArg List.length contexts).symm
  · simp [Pool.NamesKnown, contexts, names]
  · exact fun j => congrArg Context.status (hcontext j)
  · exact fun j _ => congrArg Context.address (hcontext j)
  · exact fun j => congrArg Context.framePointer (hcontext j)
  · rw [Pool.calls, notes, Pool.calls]

theorem ContextsAdded.refl (p : Pool) : ContextsAdded p p := .of_eq rfl rfl rfl

theorem ContextsAdded.trans {p q r : Pool} (h : ContextsAdded p q) (h' : ContextsAdded q r) :
    ContextsAdded p r where
  contexts_le := Nat.le_trans h.contexts_le h'.contexts_le
  names hk := h'.names (h.names hk)
  status j := (h'.status j).trans (h.status j)
  address j hj := (h'.address j (Nat.lt_of_lt_of_le hj h.contexts_le)).trans (h.address j hj)
  framePointer j := (h'.framePointer j).trans (h.framePointer j)
  calls := h'.calls.trans h.calls

namespace Pool

theorem context_addContext (p : Pool) (name : String) (address j : Nat) :
    (p.addContext name address).context j =
      if j = p.contexts.length then { address } else p.context j := by
  rcases Nat.lt_trichotomy j p.contexts.length with hlt | rfl | hgt
  · simp [addContext, context, List.getElem?_append_left hlt, Nat.ne_of_lt hlt]
  · simp [addContext, context]
  · have hnone (c : Context) : (p.contexts ++ [c])[j]? = none :=
      List.getElem?_eq_none (by simpa using Nat.succ_le_of_lt hgt)
    simp [addContext, context, hnone, List.getElem?_eq_none (Nat.le_of_lt hgt), Nat.ne_of_gt hgt]

theorem namesKnown_addContext {p : Pool} (h : p.NamesKnown) (name : String) (address : Nat) :
    (p.addContext name address).NamesKnown := by
  intro entry he
  simp only [addContext, List.mem_cons, List.mem_filter, List.length_append, List.length_cons,
    List.length_nil] at he ⊢
  rcases he with rfl | ⟨hm, -⟩
  · simp
  · have := h entry hm
    omega

theorem named?_lt {p : Pool} (h : p.NamesKnown) {name : String} {i : Nat}
    (hn : p.named? name = some i) : i < p.contexts.length := by
  obtain ⟨before, after, hsplit, -⟩ := List.lookup_eq_some_iff.mp hn
  exact h (name, i) (by simp [hsplit])

-- A context that is not there yet reads as a new one, so making it changes neither its status
-- nor its frame pointer.
theorem addContext_adds (p : Pool) (name : String) (address : Nat) :
    ContextsAdded p (p.addContext name address) := by
  have hnew : p.context p.contexts.length = { address := 0 } := by simp [context]
  refine ⟨by simp [addContext], fun hk => namesKnown_addContext hk name address, fun j => ?_,
    fun j hj => ?_, fun j => ?_, rfl⟩
  · rw [status, status, context_addContext]
    split_ifs with hj
    · rw [hj, hnew]
    · rfl
  · rw [Pool.address, context_addContext, if_neg (Nat.ne_of_lt hj)]
    rfl
  · rw [framePointer, framePointer, context_addContext]
    split_ifs with hj
    · rw [hj, hnew]
    · rfl

theorem ensureContext_adds (p : Pool) (name : String) (address : Nat) :
    ContextsAdded p (p.ensureContext name address).2 := by
  unfold ensureContext
  split
  · exact .refl p
  · exact p.addContext_adds name address

@[simp] theorem ensureContext_threads (p : Pool) (name : String) (address : Nat) :
    (p.ensureContext name address).2.threads = p.threads := by
  unfold ensureContext
  split <;> rfl

@[simp] theorem ensureContext_owner (p : Pool) (name : String) (address : Nat) :
    (p.ensureContext name address).2.owner = p.owner := by
  unfold ensureContext
  split <;> rfl

theorem ensureContext_lt {p : Pool} (h : p.NamesKnown) (name : String) (address : Nat) :
    (p.ensureContext name address).1 < (p.ensureContext name address).2.contexts.length := by
  unfold ensureContext
  split
  · next hn => exact named?_lt h hn
  · simp [addContext]

-- A creation on a context that is there.
theorem createOn_made {p : Pool} {i : Nat} (hi : i < p.contexts.length) (creator : String)
    (framePointer : Nat) (script : List Action) (granted : Bool) :
    CreationMade p (some ⟨⟨p.owner.nextSerial, i, framePointer⟩, p.address i, granted⟩)
      (p.createOn creator i framePointer script granted).2 := by
  have hcontexts : (p.createOn creator i framePointer script granted).2.contexts = p.contexts := by
    cases granted <;> rfl
  have hadds : ContextsAdded p (p.createOn creator i framePointer script granted).2 := by
    refine .of_eq hcontexts ?_ ?_ <;> cases granted <;> rfl
  refine ⟨hadds, ?_, ?_, ?_, ?_, ?_, ?_⟩
  · cases granted <;> rfl
  · cases granted <;> rfl
  · rintro c ⟨⟩
    rfl
  · rintro c ⟨⟩
    exact hcontexts ▸ hi
  · rintro c ⟨⟩
    rw [address, context, hcontexts]
    rfl
  · cases granted with
    | true => exact ⟨[_], rfl, rfl, by simp⟩
    | false => exact ⟨[], (List.append_nil _).symm, rfl, by simp⟩

end Pool

theorem CreationMade.of_added {p q r : Pool} {o : Option Creation} (hadds : ContextsAdded p q)
    (howner : q.owner = p.owner) (hthreads : q.threads = p.threads) (h : CreationMade q o r) :
    CreationMade p o r := by
  refine ⟨hadds.trans h.toContextsAdded, ?_, ?_, ?_, h.context, h.given, ?_⟩
  · exact howner ▸ h.nextSerial
  · exact howner ▸ h.ledger
  · exact howner ▸ h.serial
  · exact hthreads ▸ h.threads

namespace Pool

theorem creation_eq (p : Pool) (r : Request) :
    p.creation r =
      ⟨⟨p.owner.nextSerial, (p.ensureContext r.name r.address).1, r.framePointer⟩,
        (p.ensureContext r.name r.address).2.address (p.ensureContext r.name r.address).1,
        r.granted⟩ := by
  have hserial : (p.make r).1 = p.owner.nextSerial := by
    rw [← p.ensureContext_owner r.name r.address]
    unfold make create createOn
    cases r.granted <;> rfl
  rw [creation, hserial, ensureContext]
  rcases p.named? r.name with _ | i
  · simp [addContext, address, context]
  · rfl

theorem make_made {p : Pool} (hp : p.NamesKnown) (r : Request) :
    CreationMade p (some (p.creation r)) (p.make r).2 := by
  have hadds := p.ensureContext_adds r.name r.address
  have howner := p.ensureContext_owner r.name r.address
  have hmade := createOn_made (ensureContext_lt hp r.name r.address) r.creator r.framePointer
    r.script r.granted
  rw [creation_eq, ← howner]
  exact .of_added hadds howner (p.ensureContext_threads r.name r.address) hmade

theorem grant_made {p : Pool} (hp : p.NamesKnown) (o : Option Request) :
    CreationMade p (o.map p.creation) (p.grant o) := by
  cases o with
  | some r => exact make_made hp r
  | none =>
      refine ⟨.refl p, (UInt64.add_zero _).symm, rfl, ?_, ?_, ?_, [], ?_, rfl, ?_⟩
      · simp
      · simp
      · simp
      · exact (List.append_nil _).symm
      · simp

end Pool

section CreationMade

variable {p q : Pool} {o : Option Creation} {i : Nat} {t u : Thread}

-- A creation makes one thread, unless it is refused.
theorem CreationMade.threads_cases (h : CreationMade p o q) :
    (q.threads = p.threads ∧ ∀ c ∈ o, c.granted = false) ∨
      ∃ c new, o = some c ∧ q.owner.ledger = p.owner.ledger.allocate .startArguments ∧
        q.threads = p.threads ++ [new] ∧ new.identity = c.identity ∧ new.stage = .starting ∧
        new.localState = none := by
  obtain ⟨new, hthreads, hidentities, hnew⟩ := h.threads
  rcases o with _ | c
  · obtain rfl := List.map_eq_nil_iff.mp hidentities
    exact .inl ⟨hthreads.trans (List.append_nil _), by simp⟩
  · cases hc : c.granted with
    | false =>
        have hnil : new = [] := by simpa [hc] using hidentities
        exact .inl ⟨by simp [hthreads, hnil], by simp [hc]⟩
    | true =>
        have hone : new.map Thread.identity = [c.identity] := by simpa [hc] using hidentities
        obtain ⟨t, rfl, hidentity⟩ := List.map_eq_singleton_iff.mp hone
        obtain ⟨hstage, hlocal⟩ := hnew t (List.mem_singleton_self t)
        have hledger : q.owner.ledger = p.owner.ledger.allocate .startArguments := by
          rw [h.ledger, Option.elim_some, Creation.onLedger, hc, if_pos rfl]
        exact .inr ⟨c, t, rfl, hledger, hthreads, hidentity, hstage, hlocal⟩

theorem CreationMade.getElem? (h : CreationMade p o q) (hi : p.threads[i]? = some t) :
    q.threads[i]? = some t := by
  obtain ⟨new, hthreads, -⟩ := h.threads
  rw [hthreads, List.getElem?_append_left (List.getElem?_eq_some_iff.mp hi).1]
  exact hi

-- A thread is there already, or it is new and at its start.
theorem CreationMade.getElem?_cases (h : CreationMade p o q) (hu : q.threads[i]? = some u) :
    p.threads[i]? = some u ∨ i = p.threads.length ∧ u.stage = .starting ∧ u.localState = none ∧
      u.context < q.contexts.length := by
  rcases h.threads_cases with ⟨hthreads, -⟩ | ⟨c, new, rfl, -, hthreads, hidentity, hstage, hlocal⟩
  · exact .inl (hthreads ▸ hu)
  · rw [hthreads] at hu
    by_cases hlt : i < p.threads.length
    · rw [List.getElem?_append_left hlt] at hu
      exact .inl hu
    · have hlen := (List.getElem?_eq_some_iff.mp hu).1
      have hi : i = p.threads.length := by
        simp only [List.length_append, List.length_cons, List.length_nil] at hlen
        omega
      subst hi
      rw [List.getElem?_concat_length, Option.some.injEq] at hu
      subst hu
      have hcontext : new.context = c.identity.context := congrArg Identity.context hidentity
      exact .inr ⟨rfl, hstage, hlocal, hcontext ▸ h.context c rfl⟩

end CreationMade

end VmLauncher.Threads
