import VmLauncher.Instance.Ledger
-- What a ledger that has counted any steps, in any order, says of itself.
namespace VmLauncher.Instance

-- One thing that a ledger counts. Nothing says that a release follows an allocation.
inductive Tally where
  | allocate (r : Resource)
  | release (r : Resource)
deriving DecidableEq, Repr

theorem Counter.live_eq_zero_iff (c : Counter) : c.live = 0 ↔ c.allocated ≤ c.released := by
  unfold live
  split
  · next h =>
      refine ⟨fun hzero => ?_, fun hle => ?_⟩
      · have heq : c.allocated = c.released := by grind
        exact UInt64.le_of_eq heq
      · rw [UInt64.le_antisymm hle h, UInt64.sub_self]
  · next h => exact iff_of_true rfl (UInt64.le_of_lt (UInt64.not_le.mp h))

-- A word that counts up, before and after what it counts.
theorem count_one_more (word : UInt64) (n : Nat) (counted : Prop) [Decidable counted] :
    word + (if counted then 1 else 0) + .ofNat n = word + .ofNat (n + if counted then 1 else 0) := by
  split
  · rw [UInt64.ofNat_add, UInt64.add_assoc, UInt64.add_comm 1]
    rfl
  · rw [UInt64.add_zero, Nat.add_zero]

namespace Ledger

def count (l : Ledger) : Tally → Ledger
  | .allocate r => l.allocate r
  | .release r => l.release r

def countAll (l : Ledger) (steps : List Tally) : Ledger := steps.foldl count l

theorem counter_allocate (l : Ledger) (r r' : Resource) :
    ((l.allocate r).counter r').allocated = (l.counter r').allocated + (if r = r' then 1 else 0) ∧
      ((l.allocate r).counter r').released = (l.counter r').released := by
  cases r <;> cases r' <;> simp [allocate, update, counter, Counter.allocate]

theorem counter_release (l : Ledger) (r r' : Resource) :
    ((l.release r).counter r').allocated = (l.counter r').allocated ∧
      ((l.release r).counter r').released =
        (l.counter r').released + (if r = r' then 1 else 0) := by
  cases r <;> cases r' <;> simp [release, update, counter, Counter.release]

-- Each side of each counter is the number of its steps, as far as a word can hold it.
theorem counter_countAll (l : Ledger) (steps : List Tally) (r : Resource) :
    ((l.countAll steps).counter r).allocated =
        (l.counter r).allocated + .ofNat (steps.count (.allocate r)) ∧
      ((l.countAll steps).counter r).released =
        (l.counter r).released + .ofNat (steps.count (.release r)) := by
  induction steps generalizing l with
  | nil => simp [countAll]
  | cons step steps ih =>
      obtain ⟨hallocated, hreleased⟩ := ih (l.count step)
      rw [countAll, List.foldl_cons, ← countAll, hallocated, hreleased]
      cases step with
      | allocate r' =>
          obtain ⟨hadded, hsame⟩ := l.counter_allocate r' r
          simp only [count, hadded, hsame, List.count_cons, beq_iff_eq, Tally.allocate.injEq,
            reduceCtorEq, if_false, Nat.add_zero, and_true]
          exact count_one_more _ _ (r' = r)
      | release r' =>
          obtain ⟨hsame, hadded⟩ := l.counter_release r' r
          simp only [count, hadded, hsame, List.count_cons, beq_iff_eq, Tally.release.injEq,
            reduceCtorEq, if_false, Nat.add_zero, true_and]
          exact count_one_more _ _ (r' = r)

theorem counter_empty (r : Resource) : counter {} r = {} := by cases r <;> rfl

theorem isBalanced_iff (l : Ledger) :
    l.isBalanced = true ↔ ∀ r, (l.counter r).allocated ≤ (l.counter r).released := by
  simp only [isBalanced, Bool.and_eq_true, beq_iff_eq, Counter.live_eq_zero_iff]
  constructor
  · rintro ⟨⟨hstacks, hterminations⟩, harguments⟩ r
    cases r with
    | signalStack => exact hstacks
    | terminationContext => exact hterminations
    | startArguments => exact harguments
  · intro h
    exact ⟨⟨h .signalStack, h .terminationContext⟩, h .startArguments⟩

-- A leak on any counter is noticed, whatever happens on the others. A release too many is
-- not: the counts are equal just where the ledger is balanced and no counter has one. With more
-- steps than a word can count, the remainders stand for the counts.
theorem balanced_after_iff (steps : List Tally) :
    ((countAll {} steps).isBalanced = true ↔ ∀ r,
        steps.count (.allocate r) % UInt64.size ≤ steps.count (.release r) % UInt64.size) ∧
      (steps.length < UInt64.size →
        ((countAll {} steps).isBalanced = true ↔
          ∀ r, steps.count (.allocate r) ≤ steps.count (.release r)) ∧
        ((∀ r, steps.count (.allocate r) = steps.count (.release r)) ↔
          (countAll {} steps).isBalanced = true ∧
            ∀ r, steps.count (.release r) ≤ steps.count (.allocate r))) := by
  have hremainders : (countAll {} steps).isBalanced = true ↔ ∀ r,
      steps.count (.allocate r) % UInt64.size ≤ steps.count (.release r) % UInt64.size := by
    rw [isBalanced_iff]
    refine forall_congr' fun r => ?_
    obtain ⟨hallocated, hreleased⟩ := counter_countAll {} steps r
    rw [hallocated, hreleased, counter_empty, UInt64.zero_add, UInt64.zero_add,
      UInt64.le_iff_toNat_le]
    rfl
  refine ⟨hremainders, fun hlength => ?_⟩
  have hword (step : Tally) : steps.count step % UInt64.size = steps.count step :=
    Nat.mod_eq_of_lt (Nat.lt_of_le_of_lt List.count_le_length hlength)
  simp only [hword] at hremainders
  refine ⟨hremainders, ?_⟩
  rw [hremainders, ← forall_and]
  exact forall_congr' fun r => Nat.le_antisymm_iff

-- A leak on one counter is noticed behind a release too many on another.
theorem balanced_after_iff_of_leak :
    let steps : List Tally := [.release .startArguments, .allocate .signalStack]
    steps.length < UInt64.size ∧ (countAll {} steps).isBalanced = false := by
  intro steps
  have hlength : steps.length < UInt64.size := by decide
  refine ⟨hlength, Bool.eq_false_iff.mpr fun hbalanced => ?_⟩
  have hcounts := (((balanced_after_iff steps).2 hlength).1.mp hbalanced) .signalStack
  exact absurd hcounts (by decide)

-- What is given back twice leaves a ledger balanced.
theorem second_release_not_noticed :
    ¬ ∀ steps : List Tally, (countAll {} steps).isBalanced = true ↔
      ∀ r, steps.count (.allocate r) = steps.count (.release r) := by
  intro hexact
  have hequal := (hexact [.allocate .signalStack, .release .signalStack, .release .signalStack]).mp
    (by decide) .signalStack
  exact absurd hequal (by decide)

end Ledger

end VmLauncher.Instance
