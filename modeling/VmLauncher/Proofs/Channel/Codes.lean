import VmLauncher.Channel.Call
import Mathlib.Data.List.Basic
-- The integers that compiled code gets: each of the four calls has its own, and none of them stands
-- for two different answers, errors apart.
namespace VmLauncher.Channel

open Host (Error)

structure ReadByteTable (a : Except Error ByteRead) (n : Int) : Prop where
  byte : ∀ b : UInt8, n = b.toNat ↔ a = .ok (.byte b)
  endOfStream : n = -1 ↔ a = .ok .endOfStream
  wouldBlock : n = -2 ↔ a = .ok .wouldBlock
  failed : n = -3 ↔ ∃ e, a = .error e

structure WriteByteTable (a : Except Error (Option Nat)) (n : Int) : Prop where
  written : n = 0 ↔ ∃ count, a = .ok (some count)
  wouldBlock : n = -2 ↔ a = .ok none
  failed : n = -1 ↔ ∃ e, a = .error e

structure ReadBytesTable (a : Except Error (Option (List UInt8))) (n : Int) : Prop where
  read : ∀ count : Nat, n = count ↔ ∃ bytes, a = .ok (some bytes) ∧ bytes.length = count
  wouldBlock : n = -1 ↔ a = .ok none
  failed : n = -2 ↔ ∃ e, a = .error e

structure WriteBytesTable (a : Except Error (Option Nat)) (n : Int) : Prop where
  written : ∀ count : Nat, n = count ↔ a = .ok (some count)
  wouldBlock : n = -1 ↔ a = .ok none
  failed : n = -2 ↔ ∃ e, a = .error e ∧ e.kind ≠ .brokenPipe
  brokenPipe : n = -3 ↔ ∃ e, a = .error e ∧ e.kind = .brokenPipe

namespace Code

-- Counts and bytes are never below zero, where all the other codes are.
theorem natCast_ne_negative (n : Nat) {code : Int} (h : code < 0) : (n : Int) ≠ code := by
  omega

theorem readByte_table (a : Except Error ByteRead) : ReadByteTable a (readByte a) := by
  rcases a with e | b | _ | _
  · constructor <;> simp [readByte]
  · have hnot {code : Int} (h : code < 0) : readByte (.ok (.byte b)) ≠ code :=
      natCast_ne_negative b.toNat h
    constructor
    · intro other
      rw [Except.ok.injEq, ByteRead.byte.injEq, ← UInt8.toNat_inj]
      exact Int.ofNat_inj
    · exact iff_of_false (hnot (by decide)) (by simp)
    · exact iff_of_false (hnot (by decide)) (by simp)
    · exact iff_of_false (hnot (by decide)) (by simp)
  · constructor <;> simp [readByte]
  · constructor <;> simp [readByte]

theorem writeByte_table (a : Except Error (Option Nat)) : WriteByteTable a (writeByte a) := by
  rcases a with e | _ | n <;> constructor <;> simp [writeByte]

theorem readBytes_table (a : Except Error (Option (List UInt8))) :
    ReadBytesTable a (readBytes a) := by
  have hnot (n : Nat) : (-1 : Int) ≠ n ∧ (-2 : Int) ≠ n :=
    ⟨(natCast_ne_negative n (by decide)).symm, (natCast_ne_negative n (by decide)).symm⟩
  rcases a with e | _ | bytes
  · constructor <;> simp [readBytes, hnot]
  · constructor <;> simp [readBytes, hnot]
  · refine ⟨fun count => ?_, iff_of_false (hnot _).1.symm (by simp),
      iff_of_false (hnot _).2.symm (by simp)⟩
    constructor
    · exact fun h => ⟨bytes, rfl, Int.ofNat_inj.mp h⟩
    · rintro ⟨_, hbytes, rfl⟩
      rw [hbytes]
      rfl

theorem writeBytes_table (a : Except Error (Option Nat)) : WriteBytesTable a (writeBytes a) := by
  have hnot (n : Nat) : (-1 : Int) ≠ n ∧ (-2 : Int) ≠ n ∧ (-3 : Int) ≠ n :=
    ⟨(natCast_ne_negative n (by decide)).symm, (natCast_ne_negative n (by decide)).symm,
      (natCast_ne_negative n (by decide)).symm⟩
  rcases a with e | _ | n
  · by_cases he : e.kind = .brokenPipe
    · constructor <;> simp [writeBytes, he, hnot]
    · constructor <;> simp [writeBytes, he, hnot]
  · constructor <;> simp [writeBytes, hnot]
  · refine ⟨fun count => ?_, iff_of_false (hnot n).1.symm (by simp),
      iff_of_false (hnot n).2.1.symm (by simp), iff_of_false (hnot n).2.2.symm (by simp)⟩
    rw [Except.ok.injEq, Option.some.injEq]
    exact Int.ofNat_inj

theorem isBadBuffer_iff (count : Int) (null : Bool) :
    isBadBuffer count null = true ↔ count < 0 ∨ null = true ∧ 0 < count := by
  simp [isBadBuffer]

end Code

-- A call for compiled code does what the call for the library does, and its code stands for the
-- answer of that one. For a bad buffer no call is made at all.
structure CodedAlike {σ : Type} (d : Descriptor σ) (s : σ) : Prop where
  readByte : (d.readByteCode s).2 = (d.readByte s).2 ∧
    ReadByteTable (d.readByte s).1 (d.readByteCode s).1
  writeByte : ∀ byte, (d.writeByteCode byte s).2 = (d.writeByte (Code.lowByte byte) s).2 ∧
    WriteByteTable (d.writeByte (Code.lowByte byte) s).1 (d.writeByteCode byte s).1
  readBytes : ∀ count null, ¬(count < 0 ∨ null = true ∧ 0 < count) →
    (d.readInto count null s).2 = (d.readBytes count.toNat s).2 ∧
      ReadBytesTable (d.readBytes count.toNat s).1 (d.readInto count null s).1.1 ∧
      ∀ bytes, (d.readBytes count.toNat s).1 = .ok (some bytes) →
        (d.readInto count null s).1.2 = bytes
  writeBytes : ∀ buffer count null, ¬(count < 0 ∨ null = true ∧ 0 < count) →
    (d.writeFrom buffer count null s).2 = (d.writeBytes (buffer.take count.toNat) s).2 ∧
      WriteBytesTable (d.writeBytes (buffer.take count.toNat) s).1
        (d.writeFrom buffer count null s).1
  badBuffer : ∀ count null, count < 0 ∨ null = true ∧ 0 < count →
    d.readInto count null s = ((-2, []), s) ∧ ∀ buffer, d.writeFrom buffer count null s = (-2, s)

theorem codedAlike {σ : Type} (d : Descriptor σ) (s : σ) : CodedAlike d s where
  readByte := ⟨rfl, Code.readByte_table _⟩
  writeByte _ := ⟨rfl, Code.writeByte_table _⟩
  readBytes count null hgood := by
    rw [← Code.isBadBuffer_iff] at hgood
    rw [Descriptor.readInto, if_neg hgood]
    refine ⟨rfl, Code.readBytes_table _, fun bytes hbytes => ?_⟩
    dsimp only
    rw [hbytes]
  writeBytes buffer count null hgood := by
    rw [← Code.isBadBuffer_iff] at hgood
    rw [Descriptor.writeFrom, if_neg hgood]
    exact ⟨rfl, Code.writeBytes_table _⟩
  badBuffer count null hbad := by
    rw [← Code.isBadBuffer_iff] at hbad
    exact ⟨if_pos hbad, fun _ => if_pos hbad⟩

end VmLauncher.Channel
