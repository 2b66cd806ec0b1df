import VmLauncher.Host.Error
-- How bytes are moved through calls of the host. A call that was interrupted is made again, and
-- one that would have to wait says so; only other failures are errors.
namespace VmLauncher.Channel

open Host (Error)

-- A call of the host, by what it makes of the state that the host keeps. It may be interrupted,
-- but not forever: `patience` counts down while it is.
structure HostCall (σ α : Type) where
  make : σ → Except Error α × σ
  patience : σ → Nat
  settles : ∀ s e s', make s = (.error e, s') → e.kind = .interrupted → patience s' < patience s

-- What a call comes to, without interruptions; `none` if it would have to wait.
def HostCall.retry {σ α : Type} (call : HostCall σ α) (s : σ) : Except Error (Option α) × σ :=
  match h : call.make s with
  | (.ok a, s') => (.ok (some a), s')
  | (.error e, s') =>
      if hi : e.kind = .interrupted then
        have := call.settles s e s' h hi
        call.retry s'
      else if e.kind = .wouldBlock then (.ok none, s')
      else (.error e, s')
termination_by call.patience s

-- What the host offers for an open file: the first bytes that are there, at most so many, and
-- as many of the given bytes as there is room for.
structure Descriptor (σ : Type) where
  read : Nat → HostCall σ (List UInt8)
  write : List UInt8 → HostCall σ Nat

inductive ByteRead where
  | byte (b : UInt8)
  | endOfStream
  | wouldBlock
deriving DecidableEq, Repr

-- The integers in which compiled code gets the answers. Each call has its own.
namespace Code

def readByte : Except Error ByteRead → Int
  | .ok (.byte b) => b.toNat
  | .ok .endOfStream => -1
  | .ok .wouldBlock => -2
  | .error _ => -3

def writeByte : Except Error (Option Nat) → Int
  | .ok (some _) => 0
  | .ok none => -2
  | .error _ => -1

def readBytes : Except Error (Option (List UInt8)) → Int
  | .ok (some bytes) => bytes.length
  | .ok none => -1
  | .error _ => -2

def writeBytes : Except Error (Option Nat) → Int
  | .ok (some n) => n
  | .ok none => -1
  | .error e => if e.kind = .brokenPipe then -3 else -2

-- A buffer that no call is made for: its size is negative, or it is not there and
-- has a size.
def isBadBuffer (count : Int) (null : Bool) : Bool := count < 0 || (null && 0 < count)

-- Compiled code hands over a byte as an integer, of which the lowest eight bits count.
def lowByte (n : Int) : UInt8 := .ofNat (n % 256).toNat

end Code

namespace Descriptor

variable {σ : Type}

def readByte (d : Descriptor σ) (s : σ) : Except Error ByteRead × σ :=
  match (d.read 1).retry s with
  | (.ok (some []), s) => (.ok .endOfStream, s)
  | (.ok (some (b :: _)), s) => (.ok (.byte b), s)
  | (.ok none, s) => (.ok .wouldBlock, s)
  | (.error e, s) => (.error e, s)

def readBytes (d : Descriptor σ) (count : Nat) (s : σ) : Except Error (Option (List UInt8)) × σ :=
  (d.read count).retry s

def writeBytes (d : Descriptor σ) (bytes : List UInt8) (s : σ) : Except Error (Option Nat) × σ :=
  (d.write bytes).retry s

def writeByte (d : Descriptor σ) (b : UInt8) (s : σ) : Except Error (Option Nat) × σ :=
  d.writeBytes [b] s

-- The same for compiled code.
def readByteCode (d : Descriptor σ) (s : σ) : Int × σ :=
  let (answer, s) := d.readByte s
  (Code.readByte answer, s)

def writeByteCode (d : Descriptor σ) (byte : Int) (s : σ) : Int × σ :=
  let (answer, s) := d.writeByte (Code.lowByte byte) s
  (Code.writeByte answer, s)

-- The answer and the bytes put into the buffer.
def readInto (d : Descriptor σ) (count : Int) (null : Bool) (s : σ) : (Int × List UInt8) × σ :=
  if Code.isBadBuffer count null then ((-2, []), s)
  else
    let (answer, s) := d.readBytes count.toNat s
    let bytes :=
      match answer with
      | .ok (some bytes) => bytes
      | _ => []
    ((Code.readBytes answer, bytes), s)

-- `count` bytes of a buffer are written.
def writeFrom (d : Descriptor σ) (buffer : List UInt8) (count : Int) (null : Bool) (s : σ) :
    Int × σ :=
  if Code.isBadBuffer count null then (-2, s)
  else
    let (answer, s) := d.writeBytes (buffer.take count.toNat) s
    (Code.writeBytes answer, s)

end Descriptor

end VmLauncher.Channel
