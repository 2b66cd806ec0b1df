import VmLauncher.Monitor.Portable
import Mathlib.Tactic.ByContra
import Mathlib.Tactic.SplitIfs
-- What one move can do to a monitor made of a flag and a generation count.
namespace VmLauncher.Monitor.Portable

-- In the middle of a call, and without the monitor.
def Blocked (m : Portable) (t : Nat) : Prop := m.place t ≠ .outside ∧ m.place t ≠ .inside

theorem lt_length_of_place_ne {m : Portable} {t : Nat} (h : m.place t ≠ .outside) :
    t < m.places.length := by
  by_contra hlen
  apply h
  simp [place, List.getElem?_eq_none (Nat.le_of_not_lt hlen)]

@[simp] theorem put_held (m : Portable) (t : Nat) (p : Place) : (m.put t p).held = m.held := rfl

@[simp] theorem put_generation (m : Portable) (t : Nat) (p : Place) :
    (m.put t p).generation = m.generation := rfl

@[simp] theorem put_length (m : Portable) (t : Nat) (p : Place) :
    (m.put t p).places.length = m.places.length := by
  simp [put]

theorem place_put {m : Portable} {t : Nat} (ht : t < m.places.length) (p : Place) (u : Nat) :
    (m.put t p).place u = if u = t then p else m.place u := by
  by_cases h : u = t
  · subst h
    simp [put, place, ht]
  · have h' : t ≠ u := Ne.symm h
    simp [put, place, h, h']

@[simp] theorem place_map_awaken (m : Portable) (g : UInt64) (u : Nat) :
    ({ m with generation := g, places := m.places.map awaken } : Portable).place u =
      awaken (m.place u) := by
  by_cases hu : u < m.places.length
  · simp [place, hu]
  · simp [place, List.getElem?_eq_none (Nat.le_of_not_lt hu), awaken]

theorem any_isAsleep_iff (m : Portable) : m.places.any isAsleep = true ↔ ∃ u, m.place u = .asleep := by
  simp only [List.any_eq_true, isAsleep, beq_iff_eq]
  constructor
  · rintro ⟨p, hp, rfl⟩
    obtain ⟨u, hu, he⟩ := List.getElem_of_mem hp
    exact ⟨u, by simp [place, hu, he]⟩
  · rintro ⟨u, hu⟩
    have hlen : u < m.places.length := lt_length_of_place_ne (by simp [hu])
    refine ⟨.asleep, ?_, rfl⟩
    rw [← hu]
    simp [place, hlen]

-- The flag is given up; then one sleeper is on its way, or there is none.
theorem release?_eq_some {m freed : Portable} {wakes : Option Nat}
    (h : m.release? wakes = some freed) :
    ((∀ u, m.place u ≠ .asleep) ∧ freed = { m with held := false }) ∨
      ∃ u, m.place u = .asleep ∧ freed = ({ m with held := false } : Portable).put u (.arriving true) := by
  cases wakes with
  | none =>
      simp only [release?] at h
      split_ifs at h with hany
      refine .inl ⟨fun u hu => hany ((any_isAsleep_iff m).mpr ⟨u, hu⟩), ?_⟩
      exact (Option.some.inj h).symm
  | some u =>
      simp only [release?] at h
      split_ifs at h with hu
      exact .inr ⟨u, hu, (Option.some.inj h).symm⟩

theorem release?_held {m freed : Portable} {wakes : Option Nat}
    (h : m.release? wakes = some freed) : freed.held = false := by
  rcases release?_eq_some h with ⟨-, rfl⟩ | ⟨u, -, rfl⟩ <;> rfl

theorem release?_generation {m freed : Portable} {wakes : Option Nat}
    (h : m.release? wakes = some freed) : freed.generation = m.generation := by
  rcases release?_eq_some h with ⟨-, rfl⟩ | ⟨u, -, rfl⟩ <;> rfl

theorem release?_length {m freed : Portable} {wakes : Option Nat}
    (h : m.release? wakes = some freed) : freed.places.length = m.places.length := by
  rcases release?_eq_some h with ⟨-, rfl⟩ | ⟨u, -, rfl⟩
  · rfl
  · exact put_length _ _ _

theorem release?_place {m freed : Portable} {wakes : Option Nat}
    (h : m.release? wakes = some freed) (u : Nat) :
    freed.place u = m.place u ∨ (m.place u = .asleep ∧ freed.place u = .arriving true) := by
  rcases release?_eq_some h with ⟨-, rfl⟩ | ⟨v, hv, rfl⟩
  · exact .inl rfl
  · have hlen : v < m.places.length := lt_length_of_place_ne (by simp [hv])
    rw [place_put (m := { m with held := false }) hlen]
    by_cases huv : u = v
    · subst huv
      exact .inr ⟨hv, if_pos rfl⟩
    · exact .inl (if_neg huv)

-- The calls that give up the flag, and where they put the thread that makes them.
inductive GivesUp (generation : UInt64) : Call → Place → Prop
  | exit : GivesUp generation .exit .outside
  | wait : GivesUp generation .wait (.dozing generation false)
  | waitUntil : GivesUp generation (.waitUntil false) (.dozing generation true)

-- Where a thread is that looks at the flag next.
inductive Looks (generation : UInt64) : Place → Prop
  | arriving (woken : Bool) : Looks generation (.arriving woken)
  | checking {seen : UInt64} (timed : Bool) (h : generation ≠ seen) :
      Looks generation (.checking seen timed)

-- Every way in which a move can go.
inductive Steps (m : Portable) : Move → Portable → Prop
  | enter {t : Nat} {wakes : Option Nat} (ht : t < m.places.length) (h : m.place t = .outside) :
      Steps m (.call t .enter wakes) (m.acquire t)
  | giveUp {t : Nat} {c : Call} {wakes : Option Nat} {p : Place} {freed : Portable}
      (hc : GivesUp m.generation c p) (h : m.place t = .inside)
      (hr : m.release? wakes = some freed) : Steps m (.call t c wakes) (freed.put t p)
  | past {t : Nat} {wakes : Option Nat} (h : m.place t = .inside) :
      Steps m (.call t (.waitUntil true) wakes) m
  | broadcast {t : Nat} {wakes : Option Nat} (h : m.place t = .inside) :
      Steps m (.call t .broadcast wakes)
        { m with generation := m.generation + 1, places := m.places.map awaken }
  | look {t : Nat} (h : Looks m.generation (m.place t)) : Steps m (.proceed t) (m.acquire t)
  | dozeAgain {t : Nat} {timed : Bool} (h : m.place t = .checking m.generation timed) :
      Steps m (.proceed t) (m.put t (.dozing m.generation timed))
  | rouse {t : Nat} (h : m.place t = .asleep) : Steps m (.rouse t) (m.put t (.arriving true))
  | stir {t : Nat} {seen : UInt64} {timed : Bool} (h : m.place t = .dozing seen timed) :
      Steps m (.rouse t) (m.put t (.checking seen timed))
  | expire {t : Nat} {seen : UInt64} (h : m.place t = .dozing seen true) :
      Steps m (.expire t) (m.put t (.arriving false))

theorem call?_steps {m m' : Portable} {t : Nat} {c : Call} {wakes : Option Nat}
    (ht : t < m.places.length) (h : m.call? t c wakes = some m') :
    Steps m (.call t c wakes) m' := by
  unfold call? at h
  split at h
  · rename_i hp
    obtain rfl := Option.some.inj h
    exact .enter ht hp
  · rename_i hp
    obtain ⟨freed, hr, rfl⟩ := Option.map_eq_some_iff.mp h
    exact .giveUp .exit hp hr
  · rename_i hp
    obtain ⟨freed, hr, rfl⟩ := Option.map_eq_some_iff.mp h
    exact .giveUp .wait hp hr
  · rename_i hp
    obtain rfl := Option.some.inj h
    exact .past hp
  · rename_i hp
    obtain ⟨freed, hr, rfl⟩ := Option.map_eq_some_iff.mp h
    exact .giveUp .waitUntil hp hr
  · rename_i hp
    obtain rfl := Option.some.inj h
    exact .broadcast hp
  · simp at h

theorem step?_steps {m m' : Portable} {move : Move} (h : m.step? move = some m') :
    Steps m move m' := by
  cases move with
  | call t c wakes =>
      simp only [step?] at h
      split_ifs at h with ht
      exact call?_steps ht h
  | proceed t =>
      simp only [step?] at h
      split at h
      · rename_i woken hp
        obtain rfl := Option.some.inj h
        exact .look (hp ▸ .arriving woken)
      · rename_i seen timed hp
        obtain rfl := Option.some.inj h
        by_cases hg : m.generation = seen
        · subst hg
          simpa using Steps.dozeAgain hp
        · simpa [hg] using Steps.look (hp ▸ Looks.checking timed hg)
      · simp at h
  | rouse t =>
      simp only [step?] at h
      split at h
      · rename_i hp
        obtain rfl := Option.some.inj h
        exact .rouse hp
      · rename_i hp
        obtain rfl := Option.some.inj h
        exact .stir hp
      · simp at h
  | expire t =>
      simp only [step?] at h
      split at h
      · rename_i hp
        obtain rfl := Option.some.inj h
        exact .expire hp
      · simp at h

theorem Looks.ne_outside {g : UInt64} {p : Place} (h : Looks g p) : p ≠ .outside := by
  cases h <;> simp

theorem Looks.ne_inside {g : UInt64} {p : Place} (h : Looks g p) : p ≠ .inside := by
  cases h <;> simp

theorem GivesUp.ne_inside {g : UInt64} {c : Call} {p : Place} (h : GivesUp g c p) :
    p ≠ .inside := by
  cases h <;> simp

-- The thread that looks at the flag gets it or goes to sleep; no other thread is moved.
theorem place_acquire {m : Portable} {t : Nat} (ht : t < m.places.length) (u : Nat) :
    (m.acquire t).place u =
      if u = t then (if m.held then .asleep else .inside) else m.place u := by
  unfold acquire
  split_ifs with hheld hu hu
  · rw [place_put ht, if_pos hu]
  · rw [place_put ht, if_neg hu]
  · rw [place_put (m := { m with held := true }) ht, if_pos hu]
  · rw [place_put (m := { m with held := true }) ht, if_neg hu]
    rfl

@[simp] theorem acquire_generation (m : Portable) (t : Nat) :
    (m.acquire t).generation = m.generation := by
  unfold acquire
  split_ifs <;> rfl

@[simp] theorem acquire_held (m : Portable) (t : Nat) : (m.acquire t).held = true := by
  unfold acquire
  split_ifs with h
  · exact h
  · rfl

theorem place_giveUp {m freed : Portable} {t : Nat} {wakes : Option Nat} (p : Place)
    (ht : m.place t = .inside) (hr : m.release? wakes = some freed) (u : Nat) :
    (freed.put t p).place u = if u = t then p else freed.place u := by
  apply place_put
  rw [release?_length hr]
  exact lt_length_of_place_ne (by simp [ht])

-- What a move made at some generation can do to one thread, whoever makes it.
inductive Shift (generation : UInt64) : Place → Place → Prop
  | stay (p : Place) : Shift generation p p
  | sleep {p : Place} (h : p = .outside ∨ Looks generation p) : Shift generation p .asleep
  | take {p : Place} (h : p = .outside ∨ Looks generation p) : Shift generation p .inside
  | giveUp {c : Call} {p : Place} (h : GivesUp generation c p) : Shift generation .inside p
  | wake : Shift generation .asleep (.arriving true)
  | stir (seen : UInt64) (timed : Bool) :
      Shift generation (.dozing seen timed) (.checking seen timed)
  | dozeAgain (timed : Bool) :
      Shift generation (.checking generation timed) (.dozing generation timed)
  | expire (seen : UInt64) : Shift generation (.dozing seen true) (.arriving false)

theorem shift_put {m : Portable} {t : Nat} (ht : t < m.places.length) {p : Place}
    (h : Shift m.generation (m.place t) p) (u : Nat) :
    Shift m.generation (m.place u) ((m.put t p).place u) := by
  rw [place_put ht]
  by_cases hu : u = t
  · subst hu
    rwa [if_pos rfl]
  · rw [if_neg hu]
    exact .stay _

theorem shift_acquire {m : Portable} {t : Nat} (ht : t < m.places.length)
    (h : m.place t = .outside ∨ Looks m.generation (m.place t)) (u : Nat) :
    Shift m.generation (m.place u) ((m.acquire t).place u) := by
  rw [place_acquire ht]
  by_cases hu : u = t
  · subst hu
    rw [if_pos rfl]
    by_cases hheld : m.held = true
    · rw [if_pos hheld]
      exact .sleep h
    · rw [if_neg hheld]
      exact .take h
  · rw [if_neg hu]
    exact .stay _

theorem shift_awaken (g : UInt64) (p : Place) : Shift g p (awaken p) := by
  cases p with
  | dozing seen timed => exact .stir seen timed
  | outside | inside | asleep | arriving | checking => exact .stay _

theorem Steps.shift {m m' : Portable} {move : Move} (h : Steps m move m') (u : Nat) :
    Shift m.generation (m.place u) (m'.place u) := by
  cases h with
  | enter ht hp => exact shift_acquire ht (.inl hp) u
  | @giveUp t c wakes p freed hc hp hr =>
      rw [place_giveUp p hp hr]
      by_cases hu : u = t
      · subst hu
        rw [if_pos rfl, hp]
        exact .giveUp hc
      · rw [if_neg hu]
        rcases release?_place hr u with he | ⟨hs, ha⟩
        · rw [he]
          exact .stay _
        · rw [hs, ha]
          exact .wake
  | past => exact .stay _
  | broadcast =>
      rw [place_map_awaken]
      exact shift_awaken _ _
  | look hl => exact shift_acquire (lt_length_of_place_ne hl.ne_outside) (.inr hl) u
  | dozeAgain hp => exact shift_put (lt_length_of_place_ne (by simp [hp])) (hp ▸ .dozeAgain _) u
  | rouse hp => exact shift_put (lt_length_of_place_ne (by simp [hp])) (hp ▸ .wake) u
  | stir hp => exact shift_put (lt_length_of_place_ne (by simp [hp])) (hp ▸ .stir _ _) u
  | expire hp => exact shift_put (lt_length_of_place_ne (by simp [hp])) (hp ▸ .expire _) u

theorem run?_append (m : Portable) (first second : List Move) :
    m.run? (first ++ second) = (m.run? first).bind (·.run? second) := by
  induction first generalizing m with
  | nil => rfl
  | cons move moves ih =>
      simp only [List.cons_append, run?]
      rcases m.step? move with _ | next
      · rfl
      · exact ih next

theorem run?_cons_eq_some {m m' : Portable} {move : Move} {moves : List Move}
    (h : m.run? (move :: moves) = some m') :
    ∃ next, m.step? move = some next ∧ next.run? moves = some m' :=
  Option.bind_eq_some_iff.mp h

theorem run?_append_eq_some {m m' : Portable} {first second : List Move}
    (h : m.run? (first ++ second) = some m') :
    ∃ mid, m.run? first = some mid ∧ mid.run? second = some m' := by
  rw [run?_append] at h
  exact Option.bind_eq_some_iff.mp h

-- What every move keeps, every run keeps.
theorem run?_induction {Keeps : Portable → Prop}
    (hstep : ∀ m m' move, Steps m move m' → Keeps m → Keeps m') {m m' : Portable}
    {moves : List Move} (h : m.run? moves = some m') (hm : Keeps m) : Keeps m' := by
  induction moves generalizing m with
  | nil =>
      obtain rfl := Option.some.inj h
      exact hm
  | cons move moves ih =>
      obtain ⟨next, hnext, hrest⟩ := run?_cons_eq_some h
      exact ih hrest (hstep m next move (step?_steps hnext) hm)

@[simp] theorem start_held (threads : Nat) : (start threads).held = false := rfl

@[simp] theorem place_start (threads t : Nat) : (start threads).place t = .outside := by
  by_cases ht : t < threads
  · simp [start, place, ht]
  · simp [start, place, Nat.le_of_not_lt ht]

end VmLauncher.Monitor.Portable
