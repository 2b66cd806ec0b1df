import VmLauncher.Channel.Call
-- Calls that are made again while they are interrupted: only the last of them counts. What it does
-- to a queue of bytes is what the caller is told.
namespace VmLauncher.Channel

open Host (Error)

namespace HostCall

variable {σ α β : Type} {call : HostCall σ α}

-- So many calls were interrupted, one after the other.
inductive Interrupted (call : HostCall σ α) : σ → σ → Prop
  | refl (s : σ) : Interrupted call s s
  | step {s mid s' : σ} {e : Error} (h : call.make s = (.error e, mid))
      (he : e.kind = .interrupted) (rest : Interrupted call mid s') : Interrupted call s s'

-- What a call that is not interrupted is told as.
inductive Settled (call : HostCall σ α) (s : σ) : Except Error (Option α) × σ → Prop
  | done {a : α} {s' : σ} (h : call.make s = (.ok a, s')) : Settled call s (.ok (some a), s')
  | blocked {e : Error} {s' : σ} (h : call.make s = (.error e, s')) (he : e.kind = .wouldBlock) :
      Settled call s (.ok none, s')
  | failed {e : Error} {s' : σ} (h : call.make s = (.error e, s')) (hi : e.kind ≠ .interrupted)
      (hw : e.kind ≠ .wouldBlock) : Settled call s (.error e, s')

-- What calls come to of which all but the last are interrupted.
def LastSettled (call : HostCall σ α) (s : σ) (found : Except Error (Option α) × σ) : Prop :=
  ∃ last, call.Interrupted s last ∧ call.Settled last found

theorem retry_settled (call : HostCall σ α) (s : σ) : call.LastSettled s (call.retry s) := by
  fun_induction call.retry s with
  | case1 s a s' h => exact ⟨s, .refl s, .done h⟩
  | case2 s e s' h hi _ ih =>
      obtain ⟨last, hrest, hlast⟩ := ih
      exact ⟨last, .step h hi hrest, hlast⟩
  | case3 s e s' h hi hw => exact ⟨s, .refl s, .blocked h hw⟩
  | case4 s e s' h hi hw => exact ⟨s, .refl s, .failed h hi hw⟩

-- What no failing call touches is as it was when the last call is made.
theorem Interrupted.keeps {s s' : σ} (h : call.Interrupted s s') {f : σ → β}
    (hf : ∀ s e s', call.make s = (.error e, s') → f s' = f s) : f s' = f s := by
  induction h with
  | refl s => rfl
  | step hmade _ _ ih => exact ih.trans (hf _ _ _ hmade)

end HostCall

-- What came of reading one byte, by the bytes that came.
inductive ByteOf : Except Error (Option (List UInt8)) → Except Error ByteRead → Prop
  | byte (b : UInt8) (more : List UInt8) : ByteOf (.ok (some (b :: more))) (.ok (.byte b))
  | endOfStream : ByteOf (.ok (some [])) (.ok .endOfStream)
  | wouldBlock : ByteOf (.ok none) (.ok .wouldBlock)
  | failed (e : Error) : ByteOf (.error e) (.error e)

variable {σ : Type}

-- Everything that is asked for is asked of the host, and the last answer of the host is handed on.
structure AnsweredByHost (d : Descriptor σ) (s : σ) : Prop where
  readByte : ∃ answer, (d.read 1).LastSettled s (answer, (d.readByte s).2) ∧
    ByteOf answer (d.readByte s).1
  readBytes : ∀ count, (d.read count).LastSettled s (d.readBytes count s)
  writeByte : ∀ b, (d.write [b]).LastSettled s (d.writeByte b s)
  writeBytes : ∀ bytes, (d.write bytes).LastSettled s (d.writeBytes bytes s)

theorem answeredByHost (d : Descriptor σ) (s : σ) : AnsweredByHost d s where
  readByte := by
    have hlast := (d.read 1).retry_settled s
    unfold Descriptor.readByte
    generalize (d.read 1).retry s = found at hlast
    rcases found with ⟨e | _ | _ | ⟨b, more⟩, s'⟩
    · exact ⟨_, hlast, .failed e⟩
    · exact ⟨_, hlast, .wouldBlock⟩
    · exact ⟨_, hlast, .endOfStream⟩
    · exact ⟨_, hlast, .byte b more⟩
  readBytes count := (d.read count).retry_settled s
  writeByte b := (d.write [b]).retry_settled s
  writeBytes bytes := (d.write bytes).retry_settled s

-- What is written through one descriptor waits until it is read through the other. How much can
-- wait is up to the host, and so is which calls it fails.
structure Carries (writer reader : Descriptor σ) (queue : σ → List UInt8) : Prop where
  read : ∀ count s bytes s', (reader.read count).make s = (.ok bytes, s') →
    bytes = (queue s).take count ∧ queue s' = (queue s).drop count
  readFails : ∀ count s e s', (reader.read count).make s = (.error e, s') → queue s' = queue s
  write : ∀ bytes s n s', (writer.write bytes).make s = (.ok n, s') →
    n ≤ bytes.length ∧ (bytes ≠ [] → 0 < n) ∧ queue s' = queue s ++ bytes.take n
  writeFails : ∀ bytes s e s', (writer.write bytes).make s = (.error e, s') → queue s' = queue s

-- How reading ends for the queue.
inductive ReadEnds (queue : σ → List UInt8) (count : Nat) (s : σ) :
    Except Error (Option (List UInt8)) × σ → Prop
  | moved {s' : σ} (h : queue s' = (queue s).drop count) :
      ReadEnds queue count s (.ok (some ((queue s).take count)), s')
  | blocked {s' : σ} (h : queue s' = queue s) : ReadEnds queue count s (.ok none, s')
  | failed {e : Error} {s' : σ} (h : queue s' = queue s) (he : e.kind ≠ .interrupted) :
      ReadEnds queue count s (.error e, s')

inductive WriteEnds (queue : σ → List UInt8) (bytes : List UInt8) (s : σ) :
    Except Error (Option Nat) × σ → Prop
  | moved {n : Nat} {s' : σ} (hn : n ≤ bytes.length) (hpos : bytes ≠ [] → 0 < n)
      (h : queue s' = queue s ++ bytes.take n) : WriteEnds queue bytes s (.ok (some n), s')
  | blocked {s' : σ} (h : queue s' = queue s) : WriteEnds queue bytes s (.ok none, s')
  | failed {e : Error} {s' : σ} (h : queue s' = queue s) (he : e.kind ≠ .interrupted) :
      WriteEnds queue bytes s (.error e, s')

inductive ByteEnds (queue : σ → List UInt8) (s : σ) : Except Error ByteRead × σ → Prop
  | byte {b : UInt8} {s' : σ} (h : queue s = b :: queue s') : ByteEnds queue s (.ok (.byte b), s')
  | endOfStream {s' : σ} (h : queue s' = queue s) (hs : queue s = []) :
      ByteEnds queue s (.ok .endOfStream, s')
  | blocked {s' : σ} (h : queue s' = queue s) : ByteEnds queue s (.ok .wouldBlock, s')
  | failed {e : Error} {s' : σ} (h : queue s' = queue s) (he : e.kind ≠ .interrupted) :
      ByteEnds queue s (.error e, s')

namespace Carries

variable {writer reader : Descriptor σ} {queue : σ → List UInt8} (h : Carries writer reader queue)

include h

theorem readBytes_ends (count : Nat) (s : σ) :
    ReadEnds queue count s (reader.readBytes count s) := by
  obtain ⟨last, hinterrupted, hlast⟩ := (reader.read count).retry_settled s
  have hkept : queue last = queue s := hinterrupted.keeps (h.readFails count)
  rw [Descriptor.readBytes]
  generalize (reader.read count).retry s = found at hlast
  cases hlast with
  | done hmade =>
      obtain ⟨rfl, hqueue⟩ := h.read _ _ _ _ hmade
      rw [hkept] at hqueue ⊢
      exact .moved hqueue
  | blocked hmade => exact .blocked ((h.readFails _ _ _ _ hmade).trans hkept)
  | failed hmade hi => exact .failed ((h.readFails _ _ _ _ hmade).trans hkept) hi

theorem writeBytes_ends (bytes : List UInt8) (s : σ) :
    WriteEnds queue bytes s (writer.writeBytes bytes s) := by
  obtain ⟨last, hinterrupted, hlast⟩ := (writer.write bytes).retry_settled s
  have hkept : queue last = queue s := hinterrupted.keeps (h.writeFails bytes)
  rw [Descriptor.writeBytes]
  generalize (writer.write bytes).retry s = found at hlast
  cases hlast with
  | done hmade =>
      obtain ⟨hn, hpos, hqueue⟩ := h.write _ _ _ _ hmade
      rw [hkept] at hqueue
      exact .moved hn hpos hqueue
  | blocked hmade => exact .blocked ((h.writeFails _ _ _ _ hmade).trans hkept)
  | failed hmade hi => exact .failed ((h.writeFails _ _ _ _ hmade).trans hkept) hi

theorem readByte_ends (s : σ) : ByteEnds queue s (reader.readByte s) := by
  have hends := h.readBytes_ends 1 s
  unfold Descriptor.readByte
  rw [Descriptor.readBytes] at hends
  generalize (reader.read 1).retry s = found at hends
  cases hends with
  | moved hqueue =>
      rcases hs : queue s with _ | ⟨b, rest⟩
      · exact .endOfStream (by rw [hqueue, hs]; rfl) hs
      · exact .byte (by rw [hqueue, hs]; rfl)
  | blocked hqueue => exact .blocked hqueue
  | failed hqueue he => exact .failed hqueue he

end Carries

end VmLauncher.Channel
