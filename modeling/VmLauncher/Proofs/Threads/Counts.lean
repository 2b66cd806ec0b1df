import VmLauncher.Proofs.Threads.History
-- What the ledger counts for all threads together. Its counters are words, so they say how often
-- something was taken only as long as a word can hold that.
namespace VmLauncher.Threads

open Instance (Counter Ledger Resource)

-- Whether a thread has yet to take a resource, read off from where it is. Start arguments are
-- taken before there is a thread.
def Thread.awaits (t : Thread) : Resource → Bool
  | .startArguments => false
  | .signalStack =>
      match t.stage with
      | .starting => true
      | _ => false
  | .terminationContext =>
      match t.stage with
      | .starting | .stackInstalled => true
      | _ => false

theorem Thread.Alike.owns {t u : Thread} (h : t.Alike u) (r : Resource) : u.owns r = t.owns r := by
  cases r <;> simp only [Thread.owns, h.stage]

theorem Thread.Alike.awaits {t u : Thread} (h : t.Alike u) (r : Resource) :
    u.awaits r = t.awaits r := by
  cases r <;> simp only [Thread.awaits, h.stage]

namespace Act

-- How often an act allocates a resource, and how often it releases it.
def takes (act : Act) (r : Resource) : Nat :=
  match act with
  | take r' => if r' = r then 1 else 0
  | _ => 0

def gives (act : Act) (r : Resource) : Nat :=
  match act with
  | giveBack r' => if r' = r then 1 else 0
  | _ => 0

theorem takes_le_one (act : Act) (r : Resource) : act.takes r ≤ 1 := by
  unfold takes
  split
  · split_ifs <;> omega
  · exact Nat.zero_le 1

theorem gives_le_one (act : Act) (r : Resource) : act.gives r ≤ 1 := by
  unfold gives
  split
  · split_ifs <;> omega
  · exact Nat.zero_le 1

theorem counter_onLedger (act : Act) (l : Ledger) (r : Resource) :
    ((act.onLedger l).counter r).allocated = (l.counter r).allocated + .ofNat (act.takes r) ∧
      ((act.onLedger l).counter r).released = (l.counter r).released + .ofNat (act.gives r) := by
  have hsame (x : UInt64) : x = x + .ofNat 0 := (UInt64.add_zero x).symm
  cases act with
  | take r' =>
      obtain ⟨hallocated, hreleased⟩ := l.counter_allocate r' r
      refine ⟨hallocated.trans ?_, hreleased.trans (hsame _)⟩
      simp only [takes]
      split_ifs <;> rfl
  | giveBack r' =>
      obtain ⟨hallocated, hreleased⟩ := l.counter_release r' r
      refine ⟨hallocated.trans (hsame _), hreleased.trans ?_⟩
      simp only [gives]
      split_ifs <;> rfl
  | nothing | move | storeFrame | enter => exact ⟨hsame _, hsame _⟩

end Act

-- What a thread owns changes as the ledger says, and what it takes it has awaited.
theorem StageStep.owns {serial : UInt64} {t t' : Thread} {act : Act}
    (h : StageStep serial t.stage act t'.stage) (r : Resource) :
    (if t.owns r then 1 else 0) + act.takes r = (if t'.owns r then 1 else 0) + act.gives r ∧
      (if t.awaits r then 1 else 0) = (if t'.awaits r then 1 else 0) + act.takes r := by
  generalize hs : t.stage = s at h
  generalize hs' : t'.stage = s' at h
  cases h <;> cases r <;>
    simp [Thread.owns, Thread.awaits, hs, hs', Act.takes, Act.gives]

-- By how much a word that counts has gone on, where that is one at most.
theorem toNat_count_sub (word : UInt64) {n : Nat} (hn : n ≤ 1) :
    (word + .ofNat n - word).toNat = n := by
  rw [UInt64.add_comm, UInt64.add_sub_cancel]
  exact UInt64.toNat_ofNat_of_lt' (Nat.lt_of_le_of_lt hn (by decide))

theorem countP_set_add {α : Type} (f : α → Bool) {l : List α} {i : Nat} {a : α}
    (hi : l[i]? = some a) (b : α) :
    (l.set i b).countP f + (if f a then 1 else 0) = l.countP f + (if f b then 1 else 0) := by
  obtain ⟨hlt, rfl⟩ := List.getElem?_eq_some_iff.mp hi
  rw [List.countP_set hlt]
  by_cases ha : f l[i] = true
  · have := List.countP_pos_iff.mpr ⟨l[i], List.getElem_mem hlt, ha⟩
    simp only [ha, if_true]
    omega
  · simp [ha]

namespace Pool

def counter (p : Pool) (r : Resource) : Counter := p.owner.ledger.counter r

-- Each counter stands at what was taken and returned, where no more was taken than creations
-- account for, those apart that threads have yet to take.
def LedgerCounts (p : Pool) (created : Nat) : Prop :=
  ∀ r, ∃ returned : Nat,
    (p.counter r).released = .ofNat returned ∧
    (p.counter r).allocated = .ofNat (returned + p.threads.countP (·.owns r)) ∧
    returned + p.threads.countP (·.owns r) + p.threads.countP (·.awaits r) ≤ created

variable {p q : Pool} {n : Nat}

theorem ledgerCounts_start (substrate : Monitor.Substrate) (verbose : UInt32) :
    (start substrate verbose).LedgerCounts 0 := by
  intro r
  refine ⟨0, ?_, ?_, Nat.le_refl 0⟩ <;> cases r <;> rfl

theorem LedgerCounts.noThreadMoves (hp : p.LedgerCounts n) (h : NoThreadMoves p q) :
    q.LedgerCounts n := by
  obtain ⟨f, hf, hthreads⟩ := h.threads
  intro r
  have howned : q.threads.countP (·.owns r) = p.threads.countP (·.owns r) := by
    rw [hthreads, List.countP_map]
    exact List.countP_congr fun t _ => by simp [(hf t).owns r]
  have hawaited : q.threads.countP (·.awaits r) = p.threads.countP (·.awaits r) := by
    rw [hthreads, List.countP_map]
    exact List.countP_congr fun t _ => by simp [(hf t).awaits r]
  rw [counter, h.owner, howned, hawaited]
  exact hp r

theorem LedgerCounts.threadMoves (hp : p.LedgerCounts n) {i : Nat} {t t' : Thread} {act : Act}
    (h : ThreadMoves p i t act t' q) : (q.put i t').LedgerCounts n := by
  intro r
  obtain ⟨returned, hreleased, hallocated, hle⟩ := hp r
  obtain ⟨htaken, hgiven⟩ := act.counter_onLedger p.owner.ledger r
  obtain ⟨howns, hawaits⟩ := h.stage.owns r
  have howned := countP_set_add (·.owns r) h.here t'
  have hawaited := countP_set_add (·.awaits r) h.here t'
  have hthreads : (q.put i t').threads = p.threads.set i t' := by rw [put, h.effect.threads]
  have hledger : (q.put i t').owner.ledger = act.onLedger p.owner.ledger := h.effect.ledger
  rw [counter, hledger, hthreads]
  refine ⟨returned + act.gives r, ?_, ?_, ?_⟩
  · rw [hgiven, ← counter, hreleased, ← UInt64.ofNat_add]
  · rw [htaken, ← counter, hallocated, ← UInt64.ofNat_add]
    congr 1
    omega
  · omega

-- Start arguments for a thread that the host refuses are taken and given back.
theorem LedgerCounts.refused (hp : p.LedgerCounts n) {c : Creation} (hc : c.granted = false)
    (hledger : q.owner.ledger = c.onLedger p.owner.ledger) (hthreads : q.threads = p.threads) :
    q.LedgerCounts (n + 1) := by
  intro r
  obtain ⟨returned, hreleased, hallocated, hle⟩ := hp r
  obtain ⟨htaken, hkept⟩ := p.owner.ledger.counter_allocate .startArguments r
  obtain ⟨hstill, hgiven⟩ :=
    (p.owner.ledger.allocate .startArguments).counter_release .startArguments r
  rw [Creation.onLedger, hc, if_neg Bool.false_ne_true] at hledger
  rw [counter, hledger, hthreads]
  refine ⟨returned + if Resource.startArguments = r then 1 else 0, ?_, ?_, ?_⟩
  · rw [hgiven, hkept, ← counter, hreleased, UInt64.ofNat_add, apply_ite UInt64.ofNat]
    rfl
  · rw [hstill, htaken, ← counter, hallocated, Nat.add_right_comm, UInt64.ofNat_add _ (ite ..),
      apply_ite UInt64.ofNat]
    rfl
  · split_ifs <;> omega

theorem LedgerCounts.granted (hp : p.LedgerCounts n)
    (hledger : q.owner.ledger = p.owner.ledger.allocate .startArguments) {new : Thread}
    (hthreads : q.threads = p.threads ++ [new]) (hstage : new.stage = .starting) :
    q.LedgerCounts (n + 1) := by
  intro r
  obtain ⟨returned, hreleased, hallocated, hle⟩ := hp r
  obtain ⟨htaken, hkept⟩ := p.owner.ledger.counter_allocate .startArguments r
  have howned : q.threads.countP (·.owns r) =
      p.threads.countP (·.owns r) + if Resource.startArguments = r then 1 else 0 := by
    cases r <;> simp [hthreads, Thread.owns, hstage]
  have hawaited : q.threads.countP (·.awaits r) =
      p.threads.countP (·.awaits r) + if Resource.startArguments = r then 0 else 1 := by
    cases r <;> simp [hthreads, Thread.awaits, hstage]
  rw [counter, hledger, howned, hawaited]
  refine ⟨returned, ?_, ?_, ?_⟩
  · rw [hkept]
    exact hreleased
  · rw [htaken, ← counter, hallocated, ← Nat.add_assoc, UInt64.ofNat_add _ (ite ..),
      apply_ite UInt64.ofNat]
    rfl
  · split_ifs <;> omega

theorem LedgerCounts.creationMade (hp : p.LedgerCounts n) {o : Option Creation}
    (h : CreationMade p o q) : q.LedgerCounts (n + o.toList.length) := by
  rcases h.threads_cases with ⟨hthreads, hrefused⟩ | ⟨c, new, rfl, hledger, hthreads, -, hstage, -⟩
  · rcases o with _ | c
    · intro r
      rw [counter, h.ledger, hthreads]
      exact hp r
    · exact hp.refused (hrefused c rfl) h.ledger hthreads
  · exact hp.granted hledger hthreads hstage

theorem LedgerCounts.occur (hs : p.Sound) (hp : p.LedgerCounts n) (e : Event) :
    (p.occur e).LedgerCounts (n + ((p.request? e).map p.creation).toList.length) := by
  have hmid := hp.creationMade (grant_made hs.names (p.request? e))
  have h := occur_outcome hs e
  generalize p.occur e = q at h ⊢
  cases h with
  | still h => exact hmid.noThreadMoves h
  | moves _ _ h => exact hmid.threadMoves h

theorem LedgerCounts.after (hs : p.Sound) (hp : p.LedgerCounts n) (events : List Event) :
    (p.after events).LedgerCounts (n + (p.creations events).length) := by
  induction events generalizing p n with
  | nil => exact hp
  | cons e events ih =>
      rw [creations, List.length_append, ← Nat.add_assoc]
      exact ih (hs.occur e) (hp.occur hs e)

theorem LedgerCounts.allocated_eq (hp : p.LedgerCounts n) (r : Resource) :
    (p.counter r).allocated = (p.counter r).released + .ofNat (p.threads.countP (·.owns r)) := by
  obtain ⟨returned, hreleased, hallocated, -⟩ := hp r
  rw [hallocated, hreleased, UInt64.ofNat_add]

-- No counter has begun anew as long as a word can hold the number of creations.
theorem LedgerCounts.toNat_allocated (hp : p.LedgerCounts n) (hn : n < UInt64.size)
    (r : Resource) :
    (p.counter r).allocated.toNat =
      (p.counter r).released.toNat + p.threads.countP (·.owns r) := by
  obtain ⟨returned, hreleased, hallocated, hle⟩ := hp r
  rw [hallocated, hreleased, UInt64.toNat_ofNat_of_lt' (by omega),
    UInt64.toNat_ofNat_of_lt' (by omega)]

end Pool

end VmLauncher.Threads
