import VmLauncher.Channel.Lane
import VmLauncher.Host.Error
-- A channel with two ends: a pipe, read at the first end and written at the second,
-- or a pair of sockets, read and written at both. Nothing waits; a call that would
-- have to is refused.
namespace VmLauncher

open Host (Error)

namespace Channel

inductive Side where
  | first
  | second
deriving DecidableEq, Repr

def Side.other : Side → Side
  | first => second
  | second => first

-- What the host may do to a single call: fail it, or let a write have only part of
-- its way.
inductive Whim where
  | fail (e : Error)
  | atMost (n : Nat)
deriving DecidableEq, Repr

-- One end: the lane to it, and whether the other end was closed over bytes that it had
-- not read, which is said once, when there is nothing else to read.
structure Endpoint where
  isOpen : Bool := true
  incoming : Lane := {}
  wasReset : Bool := false
deriving DecidableEq, Repr

end Channel

-- `whims` holds what the host does to the calls to come; behind its end, nothing.
structure Channel where
  kind : Channel.Kind
  first : Channel.Endpoint := {}
  second : Channel.Endpoint := {}
  whims : List Channel.Whim := []
deriving DecidableEq, Repr

namespace Channel

def endpoint (c : Channel) : Side → Endpoint
  | .first => c.first
  | .second => c.second

def update (c : Channel) (side : Side) (f : Endpoint → Endpoint) : Channel :=
  match side with
  | .first => { c with first := f c.first }
  | .second => { c with second := f c.second }

def isOpen (c : Channel) (side : Side) : Bool := (c.endpoint side).isOpen

-- The bytes on their way to an end.
def queue (c : Channel) (side : Side) : List UInt8 := (c.endpoint side).incoming.bytes

def close (c : Channel) (side : Side) : Channel :=
  let dropped : Bool := c.kind == .socket && !(c.queue side).isEmpty
  (c.update side ({ · with isOpen := false })).update side.other fun e =>
    { e with wasReset := e.wasReset || dropped }

def canRead (c : Channel) (side : Side) : Bool :=
  c.isOpen side && (c.kind == .socket || side == .first)

def canWrite (c : Channel) (side : Side) : Bool :=
  c.isOpen side && (c.kind == .socket || side == .second)

def takeWhim (c : Channel) : Option Whim × Channel :=
  match c.whims with
  | [] => (none, c)
  | w :: ws => (some w, { c with whims := ws })

-- A read where nothing is on its way.
def readNothing (c : Channel) (side : Side) : Except Error (List UInt8) × Channel :=
  if (c.endpoint side).wasReset then
    (.error .connectionReset, c.update side ({ · with wasReset := false }))
  else if c.isOpen side.other then (.error .tryAgain, c)
  else (.ok [], c)

-- A read that the host does not fail: the first bytes that are there, at most so many.
-- None are the end of the stream, unless none were asked for.
def readReady (c : Channel) (side : Option Side) (count : Nat) :
    Except Error (List UInt8) × Channel :=
  match side.filter c.canRead with
  | none => (.error .badDescriptor, c)
  | some side =>
      if count = 0 then (.ok [], c)
      else
        match c.queue side with
        | [] => c.readNothing side
        | bytes =>
            (.ok (bytes.take count),
             c.update side fun e => { e with incoming := e.incoming.consume count })

-- One read by the host.
def hostRead (c : Channel) (side : Option Side) (count : Nat) :
    Except Error (List UInt8) × Channel :=
  match c.takeWhim with
  | (some (.fail e), c) => (.error e, c)
  | (_, c) => c.readReady side count

-- How much of what there is room for a whim lets a write have, a byte at least.
def Whim.allow (room : Nat) : Option Whim → Nat
  | some (.atMost n) => min room (max n 1)
  | _ => room

-- A write that the host does not fail: as many of the first bytes as there is room for,
-- at least one. With nobody at the other end only an empty write into a pipe succeeds.
def writeReady (c : Channel) (whim : Option Whim) (side : Option Side) (bytes : List UInt8) :
    Except Error Nat × Channel :=
  match side.filter c.canWrite with
  | none => (.error .badDescriptor, c)
  | some side =>
      let target := side.other
      if !c.isOpen target && (c.kind == .socket || !bytes.isEmpty) then (.error .brokenPipe, c)
      else if bytes.isEmpty then (.ok 0, c)
      else
        let room := (c.endpoint target).incoming.room c.kind bytes.length
        if room = 0 then (.error .tryAgain, c)
        else
          let count := Whim.allow room whim
          (.ok count,
           c.update target fun e =>
             { e with incoming := e.incoming.push c.kind (bytes.take count) })

-- One write by the host.
def hostWrite (c : Channel) (side : Option Side) (bytes : List UInt8) :
    Except Error Nat × Channel :=
  match c.takeWhim with
  | (some (.fail e), c) => (.error e, c)
  | (whim, c) => c.writeReady whim side bytes

end Channel

end VmLauncher
