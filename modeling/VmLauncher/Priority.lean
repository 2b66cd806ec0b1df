import VmLauncher.Host.Error
import VmLauncher.Journal.Event
-- Thread priorities as offsets from a default. Where a scheduling policy has a range
-- of priorities the default is its middle; where it has none, niceness is used, in
-- which less is more.
namespace VmLauncher.Priority

-- The middle of a range, rounded toward its start.
def midpoint (low high : Int) : Int := low + (high - low).tdiv 2

-- What the host keeps for a thread: the range of its policy, its priority in it, and
-- its niceness. A host may refuse every change.
structure Scheduling where
  low : Int := 0
  high : Int := 0
  current : Int := 0
  niceness : Int := 0
  refusal : Option Host.Error := none
deriving DecidableEq, Repr

-- What a handle names: the thread as the kernel counts it, the thread as the thread
-- library does, which niceness knows nothing of, or no thread.
inductive Handle where
  | kernelThread
  | libraryThread
  | missing
deriving DecidableEq, Repr

def leastNiceness : Int := -20

def greatestNiceness : Int := 19

def clampNiceness (n : Int) : Int := max leastNiceness (min greatestNiceness n)

namespace Scheduling

def hasRange (s : Scheduling) : Bool := s.low != 0 || s.high != 0

def default (s : Scheduling) : Int := midpoint s.low s.high

-- The offset of a thread's priority; zero where nothing can be found out.
def offset (s : Scheduling) (handle : Handle) : Int :=
  if s.hasRange then s.current - s.default
  else if handle = .kernelThread then -s.niceness
  else 0

-- Gives a thread the priority at an offset. Nothing is asked of the host if it is
-- there already. A priority outside the range is refused, a niceness outside of its
-- own range is moved into it.
def setOffset (s : Scheduling) (handle : Handle) (offset : Int) :
    Except Host.Error Unit × Scheduling :=
  if s.offset handle = offset then (.ok (), s)
  else if s.hasRange then
    let priority := s.default + offset
    match s.refusal with
    | some e => (.error e, s)
    | none =>
        if s.low ≤ priority ∧ priority ≤ s.high then (.ok (), { s with current := priority })
        else (.error .invalidArgument, s)
  else
    match handle, s.refusal with
    | .libraryThread, _ => (.error .noPriorityMechanism, s)
    | .missing, _ => (.error .noSuchProcess, s)
    | .kernelThread, some e => (.error e, s)
    | .kernelThread, none => (.ok (), { s with niceness := clampNiceness (-offset) })

end Scheduling

def readEvent : Journal.Event :=
  ⟨.trace, .priority, "get thread priority", [("thread", .ofHost), ("handle", .ofHost)]⟩

-- A change notes the request and the reading that comes before it.
def changeEvents (offset : Int) : List Journal.Event :=
  [⟨.trace, .priority, "set thread priority",
    [("thread", .ofHost), ("handle", .ofHost), ("priority", .number offset)]⟩, readEvent]

end VmLauncher.Priority
