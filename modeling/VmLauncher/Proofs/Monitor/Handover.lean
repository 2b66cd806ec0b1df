import VmLauncher.Proofs.Monitor.Steps
-- The flag is handed over: while it is free, whoever sleeps for it has a woken thread ahead.
namespace VmLauncher.Monitor.Portable

-- A thread that slept for the flag was woken, and has yet to look at it.
def OnItsWay (m : Portable) (t : Nat) : Prop := m.place t = .arriving true

def HandsOver (m : Portable) : Prop :=
  m.held = false → (∃ t, m.place t = .asleep) → ∃ u, m.OnItsWay u

theorem handsOver_of_held {m : Portable} (h : m.held = true) : m.HandsOver := by
  intro hfree
  rw [h] at hfree
  contradiction

theorem handsOver_start (threads : Nat) : (start threads).HandsOver := by
  rintro - ⟨t, ht⟩
  simp at ht

-- A thread may go anywhere but to sleep, as long as it was not the one on its way.
theorem HandsOver.put {m : Portable} (hm : m.HandsOver) {t : Nat} (ht : t < m.places.length)
    (hold : ¬m.OnItsWay t) {p : Place} (hp : p ≠ .asleep) : (m.put t p).HandsOver := by
  rintro hfree ⟨v, hv⟩
  have hvt : v ≠ t := by
    rintro rfl
    rw [place_put ht, if_pos rfl] at hv
    exact hp hv
  rw [place_put ht, if_neg hvt] at hv
  obtain ⟨u, hu⟩ := hm hfree ⟨v, hv⟩
  have hut : u ≠ t := by
    rintro rfl
    exact hold hu
  refine ⟨u, ?_⟩
  rw [OnItsWay, place_put ht, if_neg hut]
  exact hu

-- Whoever gives the flag up wakes one of the sleepers, unless there are none.
theorem handsOver_giveUp {m freed : Portable} {t : Nat} {c : Call} {wakes : Option Nat} {p : Place}
    (hc : GivesUp m.generation c p) (ht : m.place t = .inside)
    (hr : m.release? wakes = some freed) : (freed.put t p).HandsOver := by
  have hp : p ≠ .asleep := by cases hc <;> simp
  rintro - ⟨v, hv⟩
  rw [place_giveUp p ht hr] at hv
  have hvt : v ≠ t := by
    rintro rfl
    rw [if_pos rfl] at hv
    exact hp hv
  rw [if_neg hvt] at hv
  rcases release?_eq_some hr with ⟨hnone, rfl⟩ | ⟨u, hu, rfl⟩
  · exact absurd hv (hnone v)
  · have hlen : u < m.places.length := lt_length_of_place_ne (by simp [hu])
    have hut : u ≠ t := by
      rintro rfl
      simp [hu] at ht
    refine ⟨u, ?_⟩
    rw [OnItsWay, place_giveUp p ht hr, if_neg hut, place_put (m := { m with held := false }) hlen,
      if_pos rfl]

theorem Steps.handsOver {m m' : Portable} {move : Move} (h : Steps m move m')
    (hm : m.HandsOver) : m'.HandsOver := by
  cases h with
  | enter ht hp => exact handsOver_of_held (acquire_held _ _)
  | look hl => exact handsOver_of_held (acquire_held _ _)
  | giveUp hc hp hr => exact handsOver_giveUp hc hp hr
  | past => exact hm
  | broadcast =>
      have hawaken (p : Place) : (awaken p = .asleep ↔ p = .asleep) ∧
          (awaken p = .arriving true ↔ p = .arriving true) := by
        cases p <;> simp [awaken]
      simpa only [HandsOver, OnItsWay, place_map_awaken, hawaken] using hm
  | @rouse t hp =>
      have hlen : t < m.places.length := lt_length_of_place_ne (by simp [hp])
      rintro - -
      exact ⟨t, by rw [OnItsWay, place_put hlen, if_pos rfl]⟩
  | dozeAgain hp | stir hp | expire hp =>
      exact hm.put (lt_length_of_place_ne (by simp [hp])) (by simp [OnItsWay, hp]) (by simp)

theorem Reachable.handsOver {threads : Nat} {m : Portable} (h : Reachable threads m) :
    m.HandsOver := by
  obtain ⟨moves, hrun⟩ := h
  exact run?_induction (fun _ _ _ hs => hs.handsOver) hrun (handsOver_start threads)

theorem OnItsWay.proceed {m : Portable} {t : Nat} (h : m.OnItsWay t) :
    m.step? (.proceed t) = some (m.acquire t) := by
  rw [OnItsWay] at h
  simp [step?, h]

theorem OnItsWay.inside {m : Portable} {t : Nat} (h : m.OnItsWay t) (hfree : m.held = false) :
    (m.acquire t).place t = .inside := by
  rw [OnItsWay] at h
  have hlen : t < m.places.length := lt_length_of_place_ne (by simp [h])
  simp [place_acquire hlen, hfree]

-- Only looking at the flag ends the way to it, and a look leaves the flag taken.
theorem Steps.onItsWay {m m' : Portable} {move : Move} (h : Steps m move m')
    (hfree : m'.held = false) {u : Nat} (hu : m.OnItsWay u) : m'.OnItsWay u := by
  have hput {t : Nat} {p : Place} (ht : t < m.places.length) (hne : m.place t ≠ .arriving true) :
      (m.put t p).OnItsWay u := by
    have hut : u ≠ t := by
      rintro rfl
      exact hne hu
    rw [OnItsWay, place_put ht, if_neg hut]
    exact hu
  cases h with
  | enter | look => simp at hfree
  | @giveUp t c wakes p freed hc hp hr =>
      have hut : u ≠ t := by
        rintro rfl
        rw [OnItsWay, hp] at hu
        contradiction
      rw [OnItsWay, place_giveUp p hp hr, if_neg hut]
      rcases release?_place hr u with hsame | ⟨hasleep, -⟩
      · exact hsame.trans hu
      · rw [OnItsWay, hasleep] at hu
        contradiction
  | past => exact hu
  | broadcast =>
      rw [OnItsWay] at hu
      simp [OnItsWay, hu, awaken]
  | dozeAgain hp | rouse hp | stir hp | expire hp =>
      exact hput (lt_length_of_place_ne (by simp [hp])) (by simp [hp])

-- No thread can go on with the call that it is in, unless something wakes it.
def Stuck (m : Portable) : Prop := ∀ t, m.step? (.proceed t) = none

-- However the moves are mixed, a free flag is not left to threads that sleep for it: one of
-- them was woken and has yet to look. So nothing gets stuck with the flag free and a sleeper.
theorem free_flag_handed_over {threads : Nat} {m : Portable} (h : Reachable threads m) :
    ¬(m.held = false ∧ (∃ t, m.place t = .asleep) ∧ ∀ u, m.place u ≠ .arriving true) ∧
      (m.held = false → (∃ t, m.place t = .asleep) →
        ∃ u, m.step? (.proceed u) = some (m.acquire u) ∧ (m.acquire u).place u = .inside) ∧
      (m.Stuck → m.held = true ∨ ∀ t, m.place t ≠ .asleep) := by
  have hm := h.handsOver
  have hgoes (hfree : m.held = false) (hasleep : ∃ t, m.place t = .asleep) :
      ∃ u, m.step? (.proceed u) = some (m.acquire u) ∧ (m.acquire u).place u = .inside := by
    obtain ⟨u, hu⟩ := hm hfree hasleep
    exact ⟨u, hu.proceed, hu.inside hfree⟩
  refine ⟨?_, hgoes, ?_⟩
  · rintro ⟨hfree, hasleep, hnone⟩
    obtain ⟨u, hu⟩ := hm hfree hasleep
    exact hnone u hu
  · intro hstuck
    by_cases hheld : m.held = true
    · exact .inl hheld
    · right
      intro t ht
      obtain ⟨u, hu, -⟩ := hgoes (by simpa using hheld) ⟨t, ht⟩
      rw [hstuck u] at hu
      contradiction

-- The thread that was woken first finds the flag taken again and goes back to sleep, one is
-- roused for nothing, and one gives up waiting.
theorem free_flag_handed_over_of_barging :
    let moves : List Move :=
      [.call 0 .enter none, .call 1 .enter none, .call 2 .enter none, .call 0 .exit (some 1),
       .call 0 .enter none, .proceed 1, .rouse 2, .proceed 2, .call 0 (.waitUntil false) (some 2),
       .expire 0]
    let m : Portable := ⟨false, 0, [.arriving false, .asleep, .arriving true]⟩
    (start 3).run? moves = some m ∧
      ¬(m.held = false ∧ (∃ t, m.place t = .asleep) ∧ ∀ u, m.place u ≠ .arriving true) ∧
      (m.held = false → (∃ t, m.place t = .asleep) →
        ∃ u, m.step? (.proceed u) = some (m.acquire u) ∧ (m.acquire u).place u = .inside) ∧
      (m.Stuck → m.held = true ∨ ∀ t, m.place t ≠ .asleep) := by
  intro moves m
  have hrun : (start 3).run? moves = some m := by decide
  exact ⟨hrun, free_flag_handed_over ⟨moves, hrun⟩⟩

-- A run without end in which no thread is kept for ever from going on.
structure FairRun (threads : Nat) where
  states : Nat → Portable
  moves : Nat → Move
  starts : states 0 = start threads
  steps : ∀ i, (states i).step? (moves i) = some (states (i + 1))
  fair : ∀ t i, (∀ j, i ≤ j → (states j).step? (.proceed t) ≠ none) →
    ∃ j, i ≤ j ∧ moves j = .proceed t

namespace FairRun

theorem reachable {threads : Nat} (run : FairRun threads) (i : Nat) :
    Reachable threads (run.states i) := by
  induction i with
  | zero => exact ⟨[], by rw [run.starts, run?]⟩
  | succ i ih =>
      obtain ⟨moves, hmoves⟩ := ih
      refine ⟨moves ++ [run.moves i], ?_⟩
      rw [run?_append, hmoves]
      simp [run?, run.steps i]

theorem onItsWay_of_free {threads : Nat} (run : FairRun threads) {i u : Nat}
    (hu : (run.states i).OnItsWay u) (hfree : ∀ j, i ≤ j → (run.states j).held = false) (k : Nat) :
    (run.states (i + k)).OnItsWay u := by
  induction k with
  | zero => exact hu
  | succ k ih =>
      have hnext := hfree (i + (k + 1)) (Nat.le_add_right _ _)
      exact (step?_steps (run.steps (i + k))).onItsWay hnext ih

-- Where a thread sleeps, the flag is taken in the end: by the thread on its way to it, if
-- not by another one before.
theorem exists_held {threads : Nat} (run : FairRun threads) {i t : Nat}
    (ht : (run.states i).place t = .asleep) : ∃ j, i ≤ j ∧ (run.states j).held = true := by
  by_contra hnever
  have hfree (j : Nat) (hj : i ≤ j) : (run.states j).held = false := by
    by_contra hheld
    exact hnever ⟨j, hj, by simpa using hheld⟩
  obtain ⟨u, hu⟩ := (run.reachable i).handsOver (hfree i (Nat.le_refl i)) ⟨t, ht⟩
  have hway (j : Nat) (hj : i ≤ j) : (run.states j).OnItsWay u := by
    obtain ⟨k, rfl⟩ := Nat.exists_eq_add_of_le hj
    exact run.onItsWay_of_free hu hfree k
  obtain ⟨j, hj, hmove⟩ := run.fair u i fun j hj => by simp [(hway j hj).proceed]
  have hstep := run.steps j
  rw [hmove, (hway j hj).proceed] at hstep
  have htaken := hfree (j + 1) (Nat.le_succ_of_le hj)
  rw [← Option.some.inj hstep, acquire_held] at htaken
  contradiction

-- Two threads hand the flag to and fro: where they are, and what is done next.
def relay : Fin 5 → Portable × Move
  | 0 => (⟨false, 0, [.outside, .outside]⟩, .call 0 .enter none)
  | 1 => (⟨true, 0, [.inside, .outside]⟩, .call 1 .enter none)
  | 2 => (⟨true, 0, [.inside, .asleep]⟩, .call 0 .exit (some 1))
  | 3 => (⟨false, 0, [.outside, .arriving true]⟩, .proceed 1)
  | 4 => (⟨true, 0, [.outside, .inside]⟩, .call 1 .exit none)

theorem relay_steps : ∀ k, (relay k).1.step? (relay k).2 = some (relay (k + 1)).1 := by
  decide

theorem relay_zero_idle : ∀ t, (relay 0).1.step? (.proceed t) = none
  | 0 | 1 => rfl
  | _ + 2 => rfl

-- Each round comes by a state in which no thread can go on, so none is kept from it.
def ofRelay : FairRun 2 where
  states i := (relay (Fin.ofNat 5 i)).1
  moves i := (relay (Fin.ofNat 5 i)).2
  starts := rfl
  steps i := by
    have hnext : Fin.ofNat 5 (i + 1) = Fin.ofNat 5 i + 1 := by simp [Fin.ofNat, Fin.add_def]
    rw [hnext]
    exact relay_steps _
  fair t i h := by
    have hround : Fin.ofNat 5 (5 * i) = 0 := by simp [Fin.ofNat]
    exact absurd (hround ▸ relay_zero_idle t) (h (5 * i) (by omega))

example : ∃ j, 2 ≤ j ∧ (ofRelay.states j).held = true := ofRelay.exists_held (t := 1) rfl

end FairRun

end VmLauncher.Monitor.Portable
