import VmLauncher.Proofs.Channel.Codes
import VmLauncher.Proofs.Channel.Lanes
-- A stream of bytes through a channel that is first in, first out: nothing is lost, doubled or
-- misreported, however often calls are interrupted or have only part of their way.
namespace VmLauncher.Channel

open Host (Error)

variable {σ : Type}

-- What can be asked for, by the library or by compiled code.
inductive Request where
  | readByte
  | readBytes (count : Nat)
  | writeByte (b : UInt8)
  | writeBytes (bytes : List UInt8)
  | readByteCode
  | readInto (count : Int) (null : Bool)
  | writeByteCode (byte : Int)
  | writeFrom (buffer : List UInt8) (count : Int) (null : Bool)

namespace Request

def Answer : Request → Type
  | readByte => Except Error ByteRead
  | readBytes _ => Except Error (Option (List UInt8))
  | writeByte _ | writeBytes _ => Except Error (Option Nat)
  | readByteCode | writeByteCode _ | writeFrom .. => Int
  | readInto .. => Int × List UInt8

def perform (writer reader : Descriptor σ) : (r : Request) → σ → r.Answer × σ
  | readByte, s => reader.readByte s
  | readBytes count, s => reader.readBytes count s
  | writeByte b, s => writer.writeByte b s
  | writeBytes bytes, s => writer.writeBytes bytes s
  | readByteCode, s => reader.readByteCode s
  | readInto count null, s => reader.readInto count null s
  | writeByteCode byte, s => writer.writeByteCode byte s
  | writeFrom buffer count null, s => writer.writeFrom buffer count null s

-- The bytes that the caller takes to have been read, from the answer alone.
def delivered : (r : Request) → r.Answer → List UInt8
  | readByte, .ok (.byte b) => [b]
  | readBytes _, .ok (some bytes) => bytes
  | readByteCode, (n : Int) => if 0 ≤ n then [.ofNat n.toNat] else []
  | readInto .., (n, bytes) => bytes.take n.toNat
  | _, _ => []

-- The bytes that the caller takes to have been written.
def accepted : (r : Request) → r.Answer → List UInt8
  | writeByte b, .ok (some n) => [b].take n
  | writeBytes bytes, .ok (some n) => bytes.take n
  | writeByteCode byte, (n : Int) => if n = 0 then [Code.lowByte byte] else []
  | writeFrom buffer .., (n : Int) => buffer.take n.toNat
  | _, _ => []

-- The number of bytes that the caller is told of; `none` if the call had to wait or failed.
def reported : (r : Request) → r.Answer → Option Nat
  | readByte, .ok (.byte _) => some 1
  | readByte, .ok .endOfStream => some 0
  | readBytes _, .ok (some bytes) => some bytes.length
  | writeByte _, .ok (some n) => some n
  | writeBytes _, .ok (some n) => some n
  | readByteCode, (n : Int) => if 0 ≤ n then some 1 else if n = -1 then some 0 else none
  | readInto .., (n, _) => if 0 ≤ n then some n.toNat else none
  | writeByteCode _, (n : Int) => if n = 0 then some 1 else none
  | writeFrom .., (n : Int) => if 0 ≤ n then some n.toNat else none
  | _, _ => none

def failure? : (r : Request) → r.Answer → Option Error
  | readByte, .error e => some e
  | readBytes _, .error e => some e
  | writeByte _, .error e => some e
  | writeBytes _, .error e => some e
  | _, _ => none

-- An answer tells what became of the queue: no byte is missing or there twice, as many were moved
-- as are reported, and nothing happened if none are. Nobody hears of an interruption.
structure Told (queue : σ → List UInt8) (r : Request) (s : σ) (found : r.Answer × σ) : Prop where
  balanced : queue s ++ r.accepted found.1 = r.delivered found.1 ++ queue found.2
  counted : ∀ n, r.reported found.1 = some n →
    (r.delivered found.1 ++ r.accepted found.1).length = n
  still : r.reported found.1 = none →
    r.delivered found.1 = [] ∧ r.accepted found.1 = [] ∧ queue found.2 = queue s
  uninterrupted : ∀ e, r.failure? found.1 = some e → e.kind ≠ .interrupted

namespace Told

variable {queue : σ → List UInt8} {r : Request} {a : r.Answer} {s s' : σ} {bytes : List UInt8}

theorem of_delivered (hdelivered : r.delivered a = bytes) (haccepted : r.accepted a = [])
    (hreported : r.reported a = some bytes.length) (hfailure : r.failure? a = none)
    (hqueue : queue s = bytes ++ queue s') : Told queue r s (a, s') := by
  constructor <;> simp [hdelivered, haccepted, hreported, hfailure, hqueue]

theorem of_accepted (hdelivered : r.delivered a = []) (haccepted : r.accepted a = bytes)
    (hreported : r.reported a = some bytes.length) (hfailure : r.failure? a = none)
    (hqueue : queue s' = queue s ++ bytes) : Told queue r s (a, s') := by
  constructor <;> simp [hdelivered, haccepted, hreported, hfailure, hqueue]

theorem of_failed (hdelivered : r.delivered a = []) (haccepted : r.accepted a = [])
    (hreported : r.reported a = none)
    (hfailure : ∀ e, r.failure? a = some e → e.kind ≠ .interrupted)
    (hqueue : queue s' = queue s) : Told queue r s (a, s') where
  balanced := by rw [hdelivered, haccepted, hqueue, List.append_nil, List.nil_append]
  counted n hn := absurd (hreported.symm.trans hn) (by simp)
  still _ := ⟨hdelivered, haccepted, hqueue⟩
  uninterrupted := hfailure

-- Nothing is moved, and for another reason than a failure of the host.
theorem of_unreported (hdelivered : r.delivered a = []) (haccepted : r.accepted a = [])
    (hreported : r.reported a = none) (hfailure : r.failure? a = none)
    (hqueue : queue s' = queue s) : Told queue r s (a, s') :=
  .of_failed hdelivered haccepted hreported (fun _ he => absurd (hfailure.symm.trans he) nofun)
    hqueue

-- A code below zero that is no failure of the library.
theorem of_readInto_code {count : Int} {null : Bool} {n : Int} (hn : n < 0)
    (hqueue : queue s' = queue s) : Told queue (.readInto count null) s ((n, []), s') :=
  .of_unreported List.take_nil rfl (if_neg (Int.not_le.mpr hn)) rfl hqueue

theorem of_writeFrom_code {buffer : List UInt8} {count : Int} {null : Bool} {n : Int} (hn : n < 0)
    (hqueue : queue s' = queue s) : Told queue (.writeFrom buffer count null) s (n, s') := by
  have hnone : buffer.take n.toNat = [] := by
    rw [Int.toNat_of_nonpos (Int.le_of_lt hn), List.take_zero]
  exact .of_unreported rfl hnone (if_neg (Int.not_le.mpr hn)) rfl hqueue

end Told

theorem writeBytes_error_neg (e : Error) : Code.writeBytes (.error e) < 0 := by
  change (if e.kind = .brokenPipe then (-3 : Int) else -2) < 0
  split <;> decide

section Told

variable {writer reader : Descriptor σ} {queue : σ → List UInt8} (h : Carries writer reader queue)

include h

theorem readByte_told (s : σ) : Told queue .readByte s (reader.readByte s) := by
  have hends := h.readByte_ends s
  generalize reader.readByte s = found at hends
  cases hends with
  | byte hqueue => exact .of_delivered rfl rfl rfl rfl hqueue
  | endOfStream hqueue => exact .of_delivered rfl rfl rfl rfl hqueue.symm
  | blocked hqueue => exact .of_unreported rfl rfl rfl rfl hqueue
  | failed hqueue he =>
      exact .of_failed rfl rfl rfl (fun _ hsame => Option.some.inj hsame ▸ he) hqueue

theorem readBytes_told (count : Nat) (s : σ) :
    Told queue (.readBytes count) s (reader.readBytes count s) := by
  have hends := h.readBytes_ends count s
  generalize reader.readBytes count s = found at hends
  cases hends with
  | @moved s' hqueue =>
      have hparts : queue s = (queue s).take count ++ queue s' := by
        rw [hqueue, List.take_append_drop]
      exact .of_delivered rfl rfl rfl rfl hparts
  | blocked hqueue => exact .of_unreported rfl rfl rfl rfl hqueue
  | failed hqueue he =>
      exact .of_failed rfl rfl rfl (fun _ hsame => Option.some.inj hsame ▸ he) hqueue

theorem writeBytes_told (bytes : List UInt8) (s : σ) :
    Told queue (.writeBytes bytes) s (writer.writeBytes bytes s) := by
  have hends := h.writeBytes_ends bytes s
  generalize writer.writeBytes bytes s = found at hends
  cases hends with
  | @moved n _ hn _ hqueue =>
      have hcount : some n = some (bytes.take n).length := by rw [List.length_take_of_le hn]
      exact .of_accepted rfl rfl hcount rfl hqueue
  | blocked hqueue => exact .of_unreported rfl rfl rfl rfl hqueue
  | failed hqueue he =>
      exact .of_failed rfl rfl rfl (fun _ hsame => Option.some.inj hsame ▸ he) hqueue

theorem writeByte_told (b : UInt8) (s : σ) :
    Told queue (.writeByte b) s (writer.writeByte b s) := by
  have hends := h.writeBytes_ends [b] s
  unfold Descriptor.writeByte
  generalize writer.writeBytes [b] s = found at hends
  cases hends with
  | @moved n _ hn _ hqueue =>
      have hcount : some n = some ([b].take n).length := by rw [List.length_take_of_le hn]
      exact .of_accepted rfl rfl hcount rfl hqueue
  | blocked hqueue => exact .of_unreported rfl rfl rfl rfl hqueue
  | failed hqueue he =>
      exact .of_failed rfl rfl rfl (fun _ hsame => Option.some.inj hsame ▸ he) hqueue

theorem readByteCode_told (s : σ) : Told queue .readByteCode s (reader.readByteCode s) := by
  have hends := h.readByte_ends s
  unfold Descriptor.readByteCode
  generalize reader.readByte s = found at hends
  cases hends with
  | @byte b _ hqueue =>
      have hdelivered : delivered .readByteCode (Code.readByte (.ok (.byte b))) = [b] := by
        simp [delivered, Code.readByte]
      have hreported : reported .readByteCode (Code.readByte (.ok (.byte b))) = some 1 := by
        simp [reported, Code.readByte]
      exact .of_delivered hdelivered rfl hreported rfl hqueue
  | endOfStream hqueue => exact .of_delivered rfl rfl rfl rfl hqueue.symm
  | blocked hqueue => exact .of_unreported rfl rfl rfl rfl hqueue
  | failed hqueue => exact .of_unreported rfl rfl rfl rfl hqueue

-- A byte is written whole or not at all.
theorem writeByteCode_told (byte : Int) (s : σ) :
    Told queue (.writeByteCode byte) s (writer.writeByteCode byte s) := by
  have hends := h.writeBytes_ends [Code.lowByte byte] s
  unfold Descriptor.writeByteCode Descriptor.writeByte
  generalize writer.writeBytes [Code.lowByte byte] s = found at hends
  cases hends with
  | @moved n _ hn hpos hqueue =>
      obtain rfl : n = 1 := Nat.le_antisymm hn (hpos (List.cons_ne_nil _ _))
      exact .of_accepted rfl rfl rfl rfl hqueue
  | blocked hqueue => exact .of_unreported rfl rfl rfl rfl hqueue
  | failed hqueue => exact .of_unreported rfl rfl rfl rfl hqueue

theorem readInto_told (count : Int) (null : Bool) (s : σ) :
    Told queue (.readInto count null) s (reader.readInto count null s) := by
  have hends := h.readBytes_ends count.toNat s
  unfold Descriptor.readInto
  split
  · exact .of_readInto_code (by decide) rfl
  · generalize reader.readBytes count.toNat s = found at hends
    cases hends with
    | @moved s' hqueue =>
        have hparts : queue s = (queue s).take count.toNat ++ queue s' := by
          rw [hqueue, List.take_append_drop]
        exact .of_delivered List.take_length rfl rfl rfl hparts
    | blocked hqueue => exact .of_readInto_code (by decide) hqueue
    | failed hqueue => exact .of_readInto_code (show (-2 : Int) < 0 by decide) hqueue

theorem writeFrom_told (buffer : List UInt8) (count : Int) (null : Bool) (s : σ) :
    Told queue (.writeFrom buffer count null) s (writer.writeFrom buffer count null s) := by
  have hends := h.writeBytes_ends (buffer.take count.toNat) s
  unfold Descriptor.writeFrom
  split
  · exact .of_writeFrom_code (by decide) rfl
  · generalize writer.writeBytes (buffer.take count.toNat) s = found at hends
    cases hends with
    | @moved n _ hn _ hqueue =>
        rw [List.length_take, Nat.le_min] at hn
        rw [List.take_take, Nat.min_eq_left hn.1] at hqueue
        have hcount : some n = some (buffer.take n).length := by rw [List.length_take_of_le hn.2]
        exact .of_accepted rfl rfl hcount rfl hqueue
    | blocked hqueue => exact .of_writeFrom_code (by decide) hqueue
    | failed hqueue => exact .of_writeFrom_code (writeBytes_error_neg _) hqueue

theorem perform_told (r : Request) (s : σ) : Told queue r s (r.perform writer reader s) := by
  cases r with
  | readByte => exact readByte_told h s
  | readBytes count => exact readBytes_told h count s
  | writeByte b => exact writeByte_told h b s
  | writeBytes bytes => exact writeBytes_told h bytes s
  | readByteCode => exact readByteCode_told h s
  | readInto count null => exact readInto_told h count null s
  | writeByteCode byte => exact writeByteCode_told h byte s
  | writeFrom buffer count null => exact writeFrom_told h buffer count null s

end Told

end Request

-- A request and what it was answered.
abbrev Exchange := (r : Request) × r.Answer

def Exchange.delivered (x : Exchange) : List UInt8 := x.1.delivered x.2

def Exchange.accepted (x : Exchange) : List UInt8 := x.1.accepted x.2

def performAll (writer reader : Descriptor σ) : List Request → σ → List Exchange × σ
  | [], s => ([], s)
  | r :: requests, s =>
      let (answer, s) := r.perform writer reader s
      let (exchanges, s) := performAll writer reader requests s
      (⟨r, answer⟩ :: exchanges, s)

section Streams

variable {writer reader : Descriptor σ} {queue : σ → List UInt8} (h : Carries writer reader queue)

include h

theorem performAll_balanced (requests : List Request) (s : σ) :
    queue s ++ (performAll writer reader requests s).1.flatMap Exchange.accepted =
      (performAll writer reader requests s).1.flatMap Exchange.delivered ++
        queue (performAll writer reader requests s).2 := by
  induction requests generalizing s with
  | nil => simp [performAll]
  | cons r requests ih =>
      obtain ⟨hfirst, -, -, -⟩ := Request.perform_told h r s
      simp only [performAll, List.flatMap_cons, Exchange.accepted, Exchange.delivered]
      rw [← List.append_assoc, hfirst, List.append_assoc, List.append_assoc]
      exact congrArg _ (ih _)

-- No code for compiled code is more than what was asked for.
theorem code_le (count : Int) (hcount : 0 ≤ count) (null : Bool) (s : σ) :
    (reader.readInto count null s).1.1 ≤ count ∧
      ∀ buffer, (writer.writeFrom buffer count null s).1 ≤ count := by
  have hlow (n : Int) (hn : n < 0) : n ≤ count := by omega
  constructor
  · have hends := h.readBytes_ends count.toNat s
    unfold Descriptor.readInto
    split
    · exact hlow (-2) (by decide)
    · generalize reader.readBytes count.toNat s = found at hends
      cases hends with
      | moved =>
          simp only [Code.readBytes, List.length_take]
          omega
      | blocked => exact hlow (-1) (by decide)
      | failed => exact hlow (-2) (by decide)
  · intro buffer
    have hends := h.writeBytes_ends (buffer.take count.toNat) s
    unfold Descriptor.writeFrom
    split
    · exact hlow (-2) (by decide)
    · generalize writer.writeBytes (buffer.take count.toNat) s = found at hends
      cases hends with
      | moved hn =>
          rw [List.length_take] at hn
          simp only [Code.writeBytes]
          omega
      | blocked => exact hlow (-1) (by decide)
      | failed => exact hlow _ (Request.writeBytes_error_neg _)

-- However calls come and go: what was read so far and what waits is what was written so far, every
-- answer tells what became of the queue and comes from the host, and the codes tell the same as the
-- answers.
theorem streams_kept (requests : List Request) (s : σ) :
    let run := performAll writer reader requests s
    queue s ++ run.1.flatMap Exchange.accepted =
        run.1.flatMap Exchange.delivered ++ queue run.2 ∧
      (∀ r s, Request.Told queue r s (r.perform writer reader s)) ∧
      (∀ s, AnsweredByHost reader s ∧ AnsweredByHost writer s) ∧
      (∀ s, CodedAlike reader s ∧ CodedAlike writer s) ∧
      ∀ count, 0 ≤ count → ∀ null s, (reader.readInto count null s).1.1 ≤ count ∧
        ∀ buffer, (writer.writeFrom buffer count null s).1 ≤ count :=
  ⟨performAll_balanced h requests s, Request.perform_told h,
    fun s => ⟨answeredByHost reader s, answeredByHost writer s⟩,
    fun s => ⟨codedAlike reader s, codedAlike writer s⟩,
    fun count hcount null s => code_le h count hcount null s⟩

end Streams

-- Three bytes are offered to a pipe, which takes two of them in the second attempt; a fourth one
-- would have to wait, and the two come out one by one.
theorem streams_kept_of_interrupted_pipe :
    let c : Channel :=
      { kind := .pipe
        whims := [.fail .interrupted, .atMost 2, .fail .tryAgain, .fail .interrupted,
          .fail .interrupted] }
    let writer := descriptor (some .second)
    let reader := descriptor (some .first)
    let run := performAll writer reader
      [.writeFrom [1, 2, 3] 3 false, .writeByte 4, .readByteCode, .readBytes 5, .readByte] c
    Carries writer reader (·.queue .first) ∧ run.1.flatMap Exchange.accepted = [1, 2] ∧
      run.1.flatMap Exchange.delivered = [1, 2] := by
  intro c writer reader run
  have hcarries : Carries writer reader (·.queue .first) := lane_carries .first
  have haccepted : run.1.flatMap Exchange.accepted = [1, 2] := by decide +kernel
  have hqueue : run.2.queue .first = [] := by decide +kernel
  have hbalanced : [] ++ run.1.flatMap Exchange.accepted =
      run.1.flatMap Exchange.delivered ++ run.2.queue .first := (streams_kept hcarries _ c).1
  rw [haccepted, hqueue, List.append_nil] at hbalanced
  exact ⟨hcarries, haccepted, hbalanced.symm⟩

end VmLauncher.Channel
