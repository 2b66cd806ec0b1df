import VmLauncher.Host.Error
import VmLauncher.Instance.Ledger
import VmLauncher.Journal.Event
-- The signals of one thread: its own stacks for handlers, the signal that resumes
-- it, and the handler for traps.
namespace VmLauncher.Signal

def resumeSignal : Int := 18

-- Faults of the hardware, in the order in which a handler is installed for them.
def trapSignals : List Int := [11, 7, 8, 4, 5]

def stackSize : Nat := 8192

-- A thread as far as signals go. Stacks keep their number after they are gone.
structure Station where
  liveStacks : List Bool := []
  registered : Option Nat := none
  resumeBlocked : Bool := false
  resumePending : Bool := false
  handled : List Int := []
  counter : Instance.Counter := {}
  journal : List Journal.Event := []
deriving Repr

namespace Station

def log (s : Station) (level : Journal.Level) (message : String)
    (fields : List (String × Journal.Value)) : Station :=
  { s with journal := s.journal ++ [⟨level, .signal, message, fields⟩] }

def isLive (s : Station) (stack : Nat) : Bool := s.liveStacks[stack]? == some true

-- Makes a stack and registers it in place of any other.
def installStack (s : Station) : Station :=
  let s := { s with
    liveStacks := s.liveStacks ++ [true]
    registered := some s.liveStacks.length
    counter := s.counter.allocate }
  s.log .trace "signal stack installed" [("base", .ofHost), ("size", .number stackSize)]

-- Gives up a stack; the answer says whether there was one. Delivery on any stack is
-- switched off first, so that the memory is free when it goes.
def dropStack (s : Station) (stack : Nat) : Bool × Station :=
  if s.isLive stack then
    let s :=
      if s.registered = some stack then s
      else s.log .debug "signal stack was replaced; the installed one is not ours to free"
        [("installed", .ofHost), ("ours", .ofHost)]
    let s := { s with
      liveStacks := s.liveStacks.set stack false
      registered := none
      counter := s.counter.release }
    (true, s.log .trace "signal stack released" [("base", .ofHost)])
  else (false, s)

-- Whether an address lies in a stack, given from where the stack begins.
def contains? (s : Station) (stack : Nat) (offset : Int) : Option Bool :=
  if s.isLive stack then some (0 ≤ offset ∧ offset < stackSize) else none

def blockResume (s : Station) : Station := { s with resumeBlocked := true }

def setUpTraps (s : Station) : Station := (s.log .trace "setup trap handling" []).blockResume

-- The resume signal waits only where it is blocked.
def sendResume (s : Station) : Station :=
  if s.resumeBlocked then { s with resumePending := true } else s

-- Waits for the resume signal, which has to be blocked.
def awaitResume? (s : Station) : Option Station :=
  if s.resumeBlocked then
    some ({ s with resumePending := false }.log .trace "resume signal received"
      [("signal", .number resumeSignal)])
  else none

-- Whether the host lets a signal be handled: there are 64, two of them cannot be
-- caught and two belong to the thread library.
def canHandle (signal : Int) : Bool :=
  1 ≤ signal && signal ≤ 64 && !([9, 19, 32, 33].contains signal)

-- Installs the handler for one signal after the other, up to the first refusal.
def installHandler (s : Station) : List Int → Except Host.Error Unit × Station
  | [] => (.ok (), s)
  | signal :: signals =>
      if canHandle signal then
        let s := { s with handled := signal :: s.handled }
        (s.log .debug "trap handler installed" [("signo", .number signal)]).installHandler signals
      else (.error .invalidArgument, s)

-- Raises a signal in the thread. The answer is the signal that a handler saw, or
-- zero, and whether it ran on one of the thread's stacks.
def raise (s : Station) (signal : Int) : (Int × Bool) × Station :=
  if signal = resumeSignal ∧ s.resumeBlocked then ((0, false), s.sendResume)
  else if s.handled.contains signal then ((signal, s.registered.isSome), s)
  else ((0, false), s)

end Station

end VmLauncher.Signal
