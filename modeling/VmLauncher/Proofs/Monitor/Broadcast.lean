import VmLauncher.Proofs.Monitor.Steps
-- A broadcast reaches the threads that wait when it is made, and no others.
namespace VmLauncher.Monitor

def Move.isBroadcast : Move → Bool
  | .call _ .broadcast _ => true
  | _ => false

def broadcasts (moves : List Move) : Nat := moves.countP Move.isBroadcast

theorem broadcasts_cons (move : Move) (moves : List Move) :
    broadcasts (move :: moves) = broadcasts moves + if move.isBroadcast then 1 else 0 :=
  List.countP_cons

theorem broadcasts_append (first second : List Move) :
    broadcasts (first ++ second) = broadcasts first + broadcasts second :=
  List.countP_append

-- The generation that a waiting thread has recorded.
def Place.seen? : Place → Option UInt64
  | .dozing seen _ => some seen
  | .checking seen _ => some seen
  | _ => none

namespace Portable

theorem Steps.generation {m m' : Portable} {move : Move} (h : Steps m move m') :
    m'.generation = if move.isBroadcast then m.generation + 1 else m.generation := by
  cases h with
  | @giveUp t c wakes _ freed hc hp hr =>
      have hmove : (Move.call t c wakes).isBroadcast = false := by
        cases hc <;> rfl
      simp [hmove, release?_generation hr]
  | enter | past | broadcast | look | dozeAgain | rouse | stir | expire =>
      simp [Move.isBroadcast]

-- As long as the count does not come around, broadcasts only raise it.
theorem Steps.generation_toNat {m m' : Portable} {move : Move} (h : Steps m move m')
    (hfew : m.generation.toNat + (if move.isBroadcast then 1 else 0) < UInt64.size) :
    m'.generation.toNat = m.generation.toNat + if move.isBroadcast then 1 else 0 := by
  rw [h.generation]
  by_cases hb : move.isBroadcast = true
  · simp only [hb, if_true] at hfew ⊢
    rw [UInt64.toNat_add]
    exact Nat.mod_eq_of_lt hfew
  · simp [hb]

theorem run?_generation {m m' : Portable} {moves : List Move} (h : m.run? moves = some m')
    (hfew : m.generation.toNat + broadcasts moves < UInt64.size) :
    m'.generation.toNat = m.generation.toNat + broadcasts moves := by
  induction moves generalizing m with
  | nil =>
      obtain rfl := Option.some.inj h
      rfl
  | cons move moves ih =>
      obtain ⟨next, hnext, hrest⟩ := run?_cons_eq_some h
      rw [broadcasts_cons] at hfew ⊢
      have hg := (step?_steps hnext).generation_toNat (by omega)
      rw [ih hrest (by omega), hg]
      omega

def SeenPast (m : Portable) : Prop :=
  ∀ t seen, (m.place t).seen? = some seen → seen.toNat ≤ m.generation.toNat

theorem Shift.seen? {g seen : UInt64} {p q : Place} (h : Shift g p q)
    (hq : q.seen? = some seen) : p.seen? = some seen ∨ seen = g := by
  cases h with
  | stay | stir | dozeAgain => exact .inl hq
  | giveUp hc =>
      cases hc with
      | exit => simp [Place.seen?] at hq
      | wait | waitUntil => exact .inr (Option.some.inj hq).symm
  | sleep | take | wake | expire => simp [Place.seen?] at hq

theorem Steps.seenPast {m m' : Portable} {move : Move} (h : Steps m move m')
    (hle : m.generation.toNat ≤ m'.generation.toNat) (hm : m.SeenPast) : m'.SeenPast := by
  intro t seen hs
  rcases (h.shift t).seen? hs with hp | rfl
  · exact Nat.le_trans (hm t seen hp) hle
  · exact hle

theorem run?_seenPast {m m' : Portable} {moves : List Move} (h : m.run? moves = some m')
    (hfew : m.generation.toNat + broadcasts moves < UInt64.size) (hm : m.SeenPast) :
    m'.SeenPast := by
  induction moves generalizing m with
  | nil =>
      obtain rfl := Option.some.inj h
      exact hm
  | cons move moves ih =>
      obtain ⟨next, hnext, hrest⟩ := run?_cons_eq_some h
      rw [broadcasts_cons] at hfew
      have hg := (step?_steps hnext).generation_toNat (by omega)
      exact ih hrest (by omega) ((step?_steps hnext).seenPast (by omega) hm)

theorem seenPast_start (threads : Nat) : (start threads).SeenPast := by
  intro t seen hs
  simp [Place.seen?] at hs

-- Awake, and behind the generation: the next look ends the waiting.
structure Overtaken (m : Portable) (t : Nat) : Prop where
  awake : ∀ seen timed, m.place t ≠ .dozing seen timed
  seen_lt : ∀ seen, (m.place t).seen? = some seen → seen.toNat < m.generation.toNat

theorem Overtaken.proceed {m : Portable} {t : Nat} (h : m.Overtaken t) {seen : UInt64}
    {timed : Bool} (hp : m.place t = .checking seen timed) :
    m.step? (.proceed t) = some (m.acquire t) := by
  have hlt := h.seen_lt seen (by simp [hp, Place.seen?])
  have hne : m.generation ≠ seen := by
    rintro rfl
    exact Nat.lt_irrefl _ hlt
  simp [step?, hp, hne]

theorem overtaken_of_broadcast {m m' : Portable} {u t : Nat} {wakes : Option Nat}
    (h : Steps m (.call u .broadcast wakes) m')
    (hfew : m.generation.toNat + 1 < UInt64.size) (hm : m.SeenPast) : m'.Overtaken t := by
  have hg := h.generation_toNat (by simpa [Move.isBroadcast] using hfew)
  simp only [Move.isBroadcast, if_true] at hg
  cases h with
  | giveUp hc => cases hc
  | broadcast hp =>
      constructor
      · intro seen timed
        rw [place_map_awaken]
        cases m.place t <;> simp [awaken]
      · intro seen hs
        rw [place_map_awaken] at hs
        have hold : (m.place t).seen? = some seen := by
          rw [← hs]
          cases m.place t <;> rfl
        have := hm t seen hold
        omega

theorem Steps.overtaken {m m' : Portable} {move : Move} {t : Nat} (h : Steps m move m')
    (hle : m.generation.toNat ≤ m'.generation.toNat) (hb : m.Blocked t) (ho : m.Overtaken t) :
    m'.Overtaken t := by
  have hs := h.shift t
  generalize hp : m.place t = p at hs
  generalize hq : m'.place t = q at hs
  have hseen : ∀ seen, p.seen? = some seen → seen.toNat < m.generation.toNat := hp ▸ ho.seen_lt
  have hawake : ∀ seen timed, p ≠ .dozing seen timed := hp ▸ ho.awake
  constructor
  · intro seen timed
    rw [hq]
    cases hs with
    | stay => exact hawake seen timed
    | dozeAgain timed => exact absurd (hseen _ rfl) (Nat.lt_irrefl _)
    | giveUp hc => exact absurd hp hb.2
    | sleep | take | wake | stir | expire => simp
  · intro seen hq'
    rw [hq] at hq'
    cases hs with
    | giveUp hc => exact absurd hp hb.2
    | stay | stir | dozeAgain => exact Nat.lt_of_lt_of_le (hseen seen hq') hle
    | sleep | take | wake | expire => simp [Place.seen?] at hq'

-- A thread does not come back from the call that it is in, anywhere on a run.
def StaysBlocked (t : Nat) : Portable → List Move → Prop
  | m, [] => m.Blocked t
  | m, move :: moves => m.Blocked t ∧ ∀ next, m.step? move = some next → StaysBlocked t next moves

theorem run?_overtaken {m m' : Portable} {moves : List Move} {t : Nat}
    (h : m.run? moves = some m') (hfew : m.generation.toNat + broadcasts moves < UInt64.size)
    (hb : StaysBlocked t m moves) (ho : m.Overtaken t) : m'.Overtaken t := by
  induction moves generalizing m with
  | nil =>
      obtain rfl := Option.some.inj h
      exact ho
  | cons move moves ih =>
      obtain ⟨next, hnext, hrest⟩ := run?_cons_eq_some h
      obtain ⟨hblocked, hstays⟩ := hb
      rw [broadcasts_cons] at hfew
      have hs := step?_steps hnext
      have hg := hs.generation_toNat (by omega)
      exact ih hrest (by omega) (hstays next hnext) (hs.overtaken (by omega) hblocked ho)

-- In a wait without end, at the generation that it began with.
def Expects (m : Portable) (t : Nat) (g : UInt64) : Prop :=
  m.generation = g ∧ (m.place t = .dozing g false ∨ m.place t = .checking g false)

theorem expects_of_wait {m m' : Portable} {t : Nat} {wakes : Option Nat}
    (h : Steps m (.call t .wait wakes) m') : m'.Expects t m.generation := by
  refine ⟨by simpa [Move.isBroadcast] using h.generation, .inl ?_⟩
  cases h with
  | giveUp hc hp hr =>
      rw [place_giveUp _ hp hr, if_pos rfl]
      cases hc
      rfl

theorem Steps.expects {m m' : Portable} {move : Move} {t : Nat} {g : UInt64}
    (h : Steps m move m') (hmove : move.isBroadcast = false) (he : m.Expects t g) :
    m'.Expects t g := by
  obtain ⟨rfl, hplace⟩ := he
  refine ⟨by simpa [hmove] using h.generation, ?_⟩
  have hs := h.shift t
  generalize m.place t = p at hplace hs
  generalize m'.place t = q at hs
  rcases hplace with rfl | rfl
  · cases hs with
    | stay => exact .inl rfl
    | stir => exact .inr rfl
    | sleep hl | take hl =>
        rcases hl with hl | hl
        · cases hl
        · cases hl
  · cases hs with
    | stay => exact .inr rfl
    | dozeAgain => exact .inl rfl
    | sleep hl | take hl =>
        rcases hl with hl | hl
        · cases hl
        · cases hl with
          | checking _ hne => exact absurd rfl hne

theorem run?_expects {m m' : Portable} {moves : List Move} {t : Nat} {g : UInt64}
    (h : m.run? moves = some m') (hquiet : ∀ move ∈ moves, move.isBroadcast = false)
    (he : m.Expects t g) : m'.Expects t g := by
  induction moves generalizing m with
  | nil =>
      obtain rfl := Option.some.inj h
      exact he
  | cons move moves ih =>
      obtain ⟨next, hnext, hrest⟩ := run?_cons_eq_some h
      have hmove := hquiet move List.mem_cons_self
      exact ih hrest (fun other ho => hquiet other (List.mem_cons_of_mem _ ho))
        ((step?_steps hnext).expects hmove he)

theorem Expects.blocked {m : Portable} {t : Nat} {g : UInt64} (h : m.Expects t g) :
    m.Blocked t := by
  rcases h.2 with hp | hp <;> simp [Blocked, hp]

theorem overtaken_since_broadcast {threads : Nat} {before after : List Move} {u t : Nat}
    {wakes : Option Nat} {there next m : Portable}
    (hbefore : (start threads).run? before = some there)
    (hnext : there.step? (.call u .broadcast wakes) = some next)
    (hafter : next.run? after = some m)
    (hfew : broadcasts (before ++ .call u .broadcast wakes :: after) < UInt64.size)
    (hstays : StaysBlocked t next after) : m.Overtaken t := by
  simp only [broadcasts_append, broadcasts_cons, Move.isBroadcast, if_true] at hfew
  have hzero : (start threads).generation.toNat = 0 := rfl
  have hthere := run?_generation hbefore (by omega)
  have hpast := run?_seenPast hbefore (by omega) (seenPast_start threads)
  have hs := step?_steps hnext
  have hg := hs.generation_toNat (by simp only [Move.isBroadcast, if_true]; omega)
  simp only [Move.isBroadcast, if_true] at hg
  have ho := overtaken_of_broadcast (t := t) hs (by omega) hpast
  exact run?_overtaken hafter (by omega) hstays ho

theorem broadcast_since_wait {m m' : Portable} {t : Nat} {wakes : Option Nat}
    {after : List Move} (h : m.run? (.call t .wait wakes :: after) = some m')
    (hinside : m'.place t = .inside) : ∃ move ∈ after, move.isBroadcast = true := by
  obtain ⟨next, hnext, hafter⟩ := run?_cons_eq_some h
  by_contra hnone
  have hquiet : ∀ move ∈ after, move.isBroadcast = false := by
    intro move hm
    by_contra hb
    exact hnone ⟨move, hm, by simpa using hb⟩
  have he := run?_expects hafter hquiet (expects_of_wait (step?_steps hnext))
  exact he.blocked.2 hinside

-- Until its call is over, a thread that was blocked when a broadcast was made does not
-- sleep for one again but goes on to the flag; and nobody comes back from a wait without
-- a broadcast after it.
theorem broadcast_reaches_waiters {threads : Nat} {moves : List Move} {m : Portable}
    (hrun : (start threads).run? moves = some m) (hfew : broadcasts moves < UInt64.size) :
    (∀ before u wakes after there next, moves = before ++ .call u .broadcast wakes :: after →
        (start threads).run? before = some there →
        there.step? (.call u .broadcast wakes) = some next →
        ∀ t, there.Blocked t → StaysBlocked t next after → ∀ seen timed,
          m.place t ≠ .dozing seen timed ∧
          (m.place t = .checking seen timed → m.step? (.proceed t) = some (m.acquire t))) ∧
      ∀ before t wakes after, moves = before ++ .call t .wait wakes :: after →
        m.place t = .inside → ∃ move ∈ after, move.isBroadcast = true := by
  constructor
  · rintro before u wakes after there next rfl hbefore hnext t - hstays seen timed
    have hafter : next.run? after = some m := by
      simpa [run?_append, hbefore, run?, hnext] using hrun
    have ho := overtaken_since_broadcast hbefore hnext hafter hfew hstays
    exact ⟨ho.awake seen timed, ho.proceed⟩
  · rintro before t wakes after rfl hinside
    obtain ⟨there, -, hrest⟩ := run?_append_eq_some hrun
    exact broadcast_since_wait hrest hinside

-- One of the two waiting threads is roused before the first broadcast, and both are
-- overtaken by a second one.
theorem broadcast_reaches_waiters_of_two :
    let before : List Move :=
      [.call 0 .enter none, .call 0 .wait none, .call 1 .enter none,
       .call 1 (.waitUntil false) none, .rouse 0, .call 2 .enter none]
    let after : List Move :=
      [.call 2 .broadcast none, .proceed 0, .call 2 .exit (some 0), .proceed 0]
    let moves := before ++ .call 2 .broadcast none :: after
    let m : Portable := ⟨true, 2, [.inside, .checking 0 true, .outside]⟩
    (start 3).run? moves = some m ∧ broadcasts moves < UInt64.size ∧
      (∀ before u wakes after there next, moves = before ++ .call u .broadcast wakes :: after →
        (start 3).run? before = some there →
        there.step? (.call u .broadcast wakes) = some next →
        ∀ t, there.Blocked t → StaysBlocked t next after → ∀ seen timed,
          m.place t ≠ .dozing seen timed ∧
          (m.place t = .checking seen timed → m.step? (.proceed t) = some (m.acquire t))) ∧
      ∀ before t wakes after, moves = before ++ .call t .wait wakes :: after →
        m.place t = .inside → ∃ move ∈ after, move.isBroadcast = true := by
  intro before after moves m
  have hrun : (start 3).run? moves = some m := by decide
  have hfew : broadcasts moves < UInt64.size := by decide
  exact ⟨hrun, hfew, broadcast_reaches_waiters hrun hfew⟩

end Portable

end VmLauncher.Monitor
