import VmLauncher.Proofs.Monitor.Steps
-- At most one thread is inside of a monitor, and the flag tells whether there is one.
namespace VmLauncher.Monitor

def Call.IsWait : Call → Prop
  | .wait | .waitUntil _ => True
  | _ => False

namespace Portable

structure Exclusive (m : Portable) : Prop where
  one : ∀ t u, m.place t = .inside → m.place u = .inside → t = u
  held_iff : m.held = true ↔ ∃ t, m.place t = .inside

-- Threads that are not inside may be anywhere.
theorem Exclusive.congr {m m' : Portable} (hi : m.Exclusive) (hheld : m'.held = m.held)
    (hin : ∀ u, m'.place u = .inside ↔ m.place u = .inside) : m'.Exclusive where
  one t u ht hu := hi.one t u ((hin t).mp ht) ((hin u).mp hu)
  held_iff := by simp only [hheld, hi.held_iff, hin]

theorem Exclusive.put {m : Portable} (hi : m.Exclusive) {t : Nat} (ht : t < m.places.length)
    (hold : m.place t ≠ .inside) {p : Place} (hp : p ≠ .inside) : (m.put t p).Exclusive := by
  refine hi.congr rfl fun u => ?_
  rw [place_put ht]
  by_cases hu : u = t
  · subst hu
    simp [hp, hold]
  · rw [if_neg hu]

theorem Exclusive.acquire {m : Portable} (hi : m.Exclusive) {t : Nat} (ht : t < m.places.length)
    (hold : m.place t ≠ .inside) : (m.acquire t).Exclusive := by
  by_cases hheld : m.held = true
  · simpa [Portable.acquire, hheld] using hi.put ht hold (p := .asleep) (by simp)
  · -- Nobody was inside, so the thread that comes in is the only one.
    have hnone : ∀ u, m.place u ≠ .inside := fun u hu => hheld (hi.held_iff.mpr ⟨u, hu⟩)
    have hin : ∀ u, (m.acquire t).place u = .inside ↔ u = t := by
      intro u
      rw [place_acquire ht]
      by_cases hu : u = t
      · simp [hu, hheld]
      · simp [hu, hnone u]
    constructor
    · intro u v hu hv
      rw [(hin u).mp hu, (hin v).mp hv]
    · simp [hin]

theorem Exclusive.giveUp {m freed : Portable} (hi : m.Exclusive) {t : Nat} {wakes : Option Nat}
    {p : Place} (ht : m.place t = .inside) (hr : m.release? wakes = some freed)
    (hp : p ≠ .inside) : (freed.put t p).Exclusive := by
  have hnone : ∀ u, (freed.put t p).place u ≠ .inside := by
    intro u hu
    rw [place_giveUp p ht hr] at hu
    by_cases hut : u = t
    · rw [if_pos hut] at hu
      exact hp hu
    · rw [if_neg hut] at hu
      rcases release?_place hr u with he | ⟨-, ha⟩
      · exact hut (hi.one u t (he ▸ hu) ht)
      · simp [ha] at hu
  constructor
  · intro u v hu
    exact absurd hu (hnone u)
  · simp [release?_held hr, hnone]

theorem awaken_eq_inside_iff (p : Place) : awaken p = .inside ↔ p = .inside := by
  cases p <;> simp [awaken]

theorem exclusive_start (threads : Nat) : (start threads).Exclusive where
  one t u ht := by simp at ht
  held_iff := by simp

theorem Steps.exclusive {m m' : Portable} {move : Move} (h : Steps m move m')
    (hi : m.Exclusive) : m'.Exclusive := by
  cases h with
  | enter ht hp => exact hi.acquire ht (by simp [hp])
  | giveUp hc hp hr => exact hi.giveUp hp hr hc.ne_inside
  | past => exact hi
  | broadcast =>
      refine hi.congr rfl fun u => ?_
      rw [place_map_awaken, awaken_eq_inside_iff]
  | look hl => exact hi.acquire (lt_length_of_place_ne hl.ne_outside) hl.ne_inside
  | dozeAgain hp | rouse hp | stir hp | expire hp =>
      exact hi.put (lt_length_of_place_ne (by simp [hp])) (by simp [hp]) (by simp)

theorem Reachable.exclusive {threads : Nat} {m : Portable} (h : Reachable threads m) :
    m.Exclusive := by
  obtain ⟨moves, hrun⟩ := h
  exact run?_induction (fun _ _ _ hs => hs.exclusive) hrun (exclusive_start threads)

-- With this move a thread comes back from the call that it was blocked in, or at once
-- from a wait.
def Returns (m : Portable) (move : Move) (m' : Portable) (t : Nat) : Prop :=
  (m.Blocked t ∨ ∃ c wakes, c.IsWait ∧ move = .call t c wakes) ∧ ¬m'.Blocked t

theorem Shift.inside_of_unblocked {g : UInt64} {p q : Place} (h : Shift g p q)
    (hp : p ≠ .outside ∧ p ≠ .inside) (hq : ¬(q ≠ .outside ∧ q ≠ .inside)) : q = .inside := by
  cases h with
  | stay => exact absurd hp hq
  | take => rfl
  | giveUp => exact absurd rfl hp.2
  | sleep | wake | stir | dozeAgain | expire => simp at hq

theorem Steps.inside_of_wait {m m' : Portable} {t : Nat} {c : Call} {wakes : Option Nat}
    (h : Steps m (.call t c wakes) m') (hc : c.IsWait) (hb : ¬m'.Blocked t) :
    m'.place t = .inside := by
  cases h with
  | enter | broadcast => exact absurd hc (by simp [Call.IsWait])
  | past hp => exact hp
  | giveUp hg hp hr =>
      rw [Blocked, place_giveUp _ hp hr, if_pos rfl] at hb
      cases hg with
      | exit => exact absurd hc (by simp [Call.IsWait])
      | wait | waitUntil => simp at hb

theorem Steps.inside_of_returns {m m' : Portable} {move : Move} {t : Nat} (h : Steps m move m')
    (hr : Returns m move m' t) : m'.place t = .inside := by
  obtain ⟨hbefore, hafter⟩ := hr
  rcases hbefore with hb | ⟨c, wakes, hc, rfl⟩
  · exact (h.shift t).inside_of_unblocked hb hafter
  · exact h.inside_of_wait hc hafter

-- However the moves of the threads are mixed, with idle wake-ups and with times that are
-- over at any moment.
theorem mutual_exclusion (threads : Nat) (m : Portable) (h : Reachable threads m) :
    (∀ t u, m.place t = .inside → m.place u = .inside → t = u) ∧
      (m.held = true ↔ ∃ t, m.place t = .inside) ∧
      ∀ move m', m.step? move = some m' → ∀ t, Returns m move m' t → m'.place t = .inside := by
  have hi := h.exclusive
  exact ⟨hi.one, hi.held_iff, fun move m' hs t hr => (step?_steps hs).inside_of_returns hr⟩

-- One thread waits and another one waits for a time; a third one comes in between the
-- broadcast and their return.
theorem mutual_exclusion_of_barging :
    let moves : List Move :=
      [.call 0 .enter none, .call 0 .wait none, .call 1 .enter none,
       .call 1 (.waitUntil false) none, .call 2 .enter none, .expire 1, .proceed 1,
       .call 2 .broadcast none, .proceed 0, .call 2 .exit (some 1), .call 2 .enter none,
       .proceed 1, .call 2 .exit (some 0)]
    let m : Portable := ⟨false, 1, [.arriving true, .asleep, .outside]⟩
    (start 3).run? moves = some m ∧
      ((∀ t u, m.place t = .inside → m.place u = .inside → t = u) ∧
        (m.held = true ↔ ∃ t, m.place t = .inside) ∧
        ∀ move m', m.step? move = some m' → ∀ t, Returns m move m' t → m'.place t = .inside) ∧
      Returns m (.proceed 0) ⟨true, 1, [.inside, .asleep, .outside]⟩ 0 := by
  intro moves m
  have hrun : (start 3).run? moves = some m := by decide
  refine ⟨hrun, mutual_exclusion 3 m ⟨moves, hrun⟩, .inl ?_, ?_⟩
  · exact ⟨by decide, by decide⟩
  · intro hb
    exact hb.2 (by decide)

end Portable

end VmLauncher.Monitor
