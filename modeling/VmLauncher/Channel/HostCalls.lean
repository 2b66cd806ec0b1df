import VmLauncher.Channel.Basic
import VmLauncher.Channel.Call
-- The calls of the host on a channel: what one of them can do, and that it is not interrupted
-- for ever.
namespace VmLauncher.Channel

open Host (Error)

namespace Parcel

theorem total_pack_le (n charged : Nat) : total (pack n charged) ≤ n := by
  induction n, charged using pack.induct with
  | case1 n charged h => simp [pack, h, total]
  | case2 n charged h size ih =>
      have hsize : min n mostBytes ≤ n := Nat.min_le_left ..
      have hrest : total (pack (n - min n mostBytes) (charged + chargeFor (min n mostBytes))) ≤
        n - min n mostBytes := ih
      rw [pack, if_neg h]
      change min n mostBytes +
        total (pack (n - min n mostBytes) (charged + chargeFor (min n mostBytes))) ≤ n
      omega

end Parcel

theorem Lane.room_le (l : Lane) (kind : Kind) (wanted : Nat) : l.room kind wanted ≤ wanted := by
  cases kind with
  | socket => exact Parcel.total_pack_le _ _
  | pipe =>
      have hpart : wanted % pageBytes ≤ wanted := Nat.mod_le ..
      simp only [room]
      split
      · exact Nat.min_le_left ..
      · split <;> omega

variable {c : Channel} {side : Side}

@[simp] theorem queue_update_self (f : Endpoint → Endpoint) :
    (c.update side f).queue side = (f (c.endpoint side)).incoming.bytes := by
  cases side <;> rfl

theorem queue_update {f : Endpoint → Endpoint} (h : ∀ e, (f e).incoming = e.incoming)
    (spot : Side) : (c.update side f).queue spot = c.queue spot := by
  cases side <;> cases spot <;> simp [queue, endpoint, update, h]

theorem takeWhim_cases (c : Channel) : c.takeWhim = (none, c) ∨
    ∃ w ws, c.whims = w :: ws ∧ c.takeWhim = (some w, { c with whims := ws }) := by
  unfold takeWhim
  cases c.whims with
  | nil => exact .inl rfl
  | cons w ws => exact .inr ⟨w, ws, rfl, rfl⟩

-- A call that is failed by a whim does nothing but to use it up.
def FailedByWhim {α : Type} (c : Channel) (found : Except Error α × Channel) : Prop :=
  ∃ e ws, c.whims = .fail e :: ws ∧ found = (.error e, { c with whims := ws })

-- All other refusals have reasons of their own, and none is an interruption.
def Refused {α : Type} (c : Channel) (found : Except Error α × Channel) : Prop :=
  ∃ e c', found = (.error e, c') ∧ e.kind ≠ .interrupted ∧ ∀ spot, c'.queue spot = c.queue spot

-- The first bytes are taken from one of the lanes.
def Reads (c : Channel) (side : Option Side) (count : Nat)
    (found : Except Error (List UInt8) × Channel) : Prop :=
  ∃ spot c', side = some spot ∧ found = (.ok ((c.queue spot).take count), c') ∧
    c'.queue spot = (c.queue spot).drop count

theorem readReady_cases (c : Channel) (side : Option Side) (count : Nat) :
    c.Refused (c.readReady side count) ∨ c.Reads side count (c.readReady side count) := by
  unfold readReady
  rcases hside : side.filter c.canRead with _ | spot
  · exact .inl ⟨_, _, rfl, by decide, fun _ => rfl⟩
  · have hspot : side = some spot := (Option.filter_eq_some_iff.mp hside).1
    dsimp only
    split
    · next hcount => exact .inr ⟨spot, c, hspot, by simp [hcount], by simp [hcount]⟩
    · split
      · next hnone =>
          unfold readNothing
          split
          · exact .inl ⟨_, _, rfl, by decide, queue_update fun _ => rfl⟩
          · split
            · exact .inl ⟨_, _, rfl, by decide, fun _ => rfl⟩
            · exact .inr ⟨spot, c, hspot, by simp [hnone], by simp [hnone]⟩
      · exact .inr ⟨spot, _, hspot, rfl, queue_update_self _⟩

theorem hostRead_cases (c : Channel) (side : Option Side) (count : Nat) :
    c.FailedByWhim (c.hostRead side count) ∨ c.Refused (c.hostRead side count) ∨
      c.Reads side count (c.hostRead side count) := by
  unfold hostRead
  rcases c.takeWhim_cases with htaken | ⟨w, ws, hwhims, htaken⟩
  · rw [htaken]
    exact .inr (c.readReady_cases side count)
  · rw [htaken]
    cases w with
    | fail e => exact .inl ⟨e, ws, hwhims, rfl⟩
    | atMost n => exact .inr (readReady_cases { c with whims := ws } side count)

-- The first bytes are put into the lane to the other end, one of them at least.
def Writes (c : Channel) (side : Option Side) (bytes : List UInt8)
    (found : Except Error Nat × Channel) : Prop :=
  ∃ spot n c', side = some spot ∧ found = (.ok n, c') ∧ n ≤ bytes.length ∧ (bytes ≠ [] → 0 < n) ∧
    c'.queue spot.other = c.queue spot.other ++ bytes.take n

theorem Whim.allow_bounds {room : Nat} (h : room ≠ 0) (whim : Option Whim) :
    0 < allow room whim ∧ allow room whim ≤ room := by
  unfold allow
  split <;> omega

theorem writeReady_cases (c : Channel) (whim : Option Whim) (side : Option Side)
    (bytes : List UInt8) : c.Refused (c.writeReady whim side bytes) ∨
      c.Writes side bytes (c.writeReady whim side bytes) := by
  unfold writeReady
  rcases hside : side.filter c.canWrite with _ | spot
  · exact .inl ⟨_, _, rfl, by decide, fun _ => rfl⟩
  · have hspot : side = some spot := (Option.filter_eq_some_iff.mp hside).1
    dsimp only
    split
    · exact .inl ⟨_, _, rfl, by decide, fun _ => rfl⟩
    · split
      · next hempty =>
          have hbytes : bytes = [] := by simpa using hempty
          exact .inr ⟨spot, 0, c, hspot, rfl, Nat.zero_le _, fun h => absurd hbytes h, by simp⟩
      · split
        · exact .inl ⟨_, _, rfl, by decide, fun _ => rfl⟩
        · next hroom =>
            obtain ⟨hpos, hle⟩ := Whim.allow_bounds hroom whim
            exact .inr ⟨spot, _, _, hspot, rfl, Nat.le_trans hle (Lane.room_le ..), fun _ => hpos,
              queue_update_self _⟩

theorem hostWrite_cases (c : Channel) (side : Option Side) (bytes : List UInt8) :
    c.FailedByWhim (c.hostWrite side bytes) ∨ c.Refused (c.hostWrite side bytes) ∨
      c.Writes side bytes (c.hostWrite side bytes) := by
  unfold hostWrite
  rcases c.takeWhim_cases with htaken | ⟨w, ws, hwhims, htaken⟩
  · rw [htaken]
    exact .inr (c.writeReady_cases none side bytes)
  · rw [htaken]
    cases w with
    | fail e => exact .inl ⟨e, ws, hwhims, rfl⟩
    | atMost n => exact .inr (writeReady_cases { c with whims := ws } (some (.atMost n)) side bytes)

-- A call that fails moves nothing. Only a whim interrupts one, and it is used up by that.
theorem error_keeps {α : Type} {c : Channel} {found : Except Error α × Channel} {P : Prop}
    (hP : P → ∃ a c', found = (.ok a, c')) (h : c.FailedByWhim found ∨ c.Refused found ∨ P)
    {e : Error} {c' : Channel} (hfound : found = (.error e, c')) :
    (∀ spot, c'.queue spot = c.queue spot) ∧
      (e.kind = .interrupted → c'.whims.length < c.whims.length) := by
  rcases h with ⟨e', ws, hwhims, hfailed⟩ | ⟨e', after, hrefused, hkind, hqueue⟩ | hok
  · obtain ⟨-, rfl⟩ := Prod.mk.inj (hfound.symm.trans hfailed)
    exact ⟨fun _ => rfl, fun _ => by simp [hwhims]⟩
  · obtain ⟨hsame, rfl⟩ := Prod.mk.inj (hfound.symm.trans hrefused)
    rw [← Except.error.inj hsame] at hkind
    exact ⟨hqueue, fun he => absurd he hkind⟩
  · obtain ⟨a, after, hok⟩ := hP hok
    rw [hok] at hfound
    simp at hfound

theorem hostRead_error {c c' : Channel} {side : Option Side} {count : Nat} {e : Error}
    (h : c.hostRead side count = (.error e, c')) :
    (∀ spot, c'.queue spot = c.queue spot) ∧
      (e.kind = .interrupted → c'.whims.length < c.whims.length) :=
  error_keeps (fun ⟨_, after, _, hok, _⟩ => ⟨_, after, hok⟩) (c.hostRead_cases side count) h

theorem hostWrite_error {c c' : Channel} {side : Option Side} {bytes : List UInt8} {e : Error}
    (h : c.hostWrite side bytes = (.error e, c')) :
    (∀ spot, c'.queue spot = c.queue spot) ∧
      (e.kind = .interrupted → c'.whims.length < c.whims.length) :=
  error_keeps (fun ⟨_, n, after, _, hok, _⟩ => ⟨n, after, hok⟩) (c.hostWrite_cases side bytes) h

-- An end of a channel, or no open file.
def descriptor (side : Option Side) : Descriptor Channel where
  read count :=
    { make := (·.hostRead side count)
      patience := (·.whims.length)
      settles := fun _ _ _ h => (hostRead_error h).2 }
  write bytes :=
    { make := (·.hostWrite side bytes)
      patience := (·.whims.length)
      settles := fun _ _ _ h => (hostWrite_error h).2 }

end VmLauncher.Channel
