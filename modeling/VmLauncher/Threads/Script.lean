import VmLauncher.Instance.Ledger
import VmLauncher.Threads.Context
-- What the entry point of a thread does, and what it reports.
namespace VmLauncher.Threads

inductive Action where
  -- Reports all that the thread can see of itself.
  | observe
  -- The rest of the script runs in a frame that reports how it is left.
  | guard (label : String)
  -- Ends the script that this stands in.
  | leave
  -- Asks for the end of the thread.
  | terminate
  | panic
  -- Runs a script and stops whatever unwinds out of it.
  | attempt (script : List Action)
  | setUpTraps
  | yield
  -- Registers another, larger signal stack.
  | replaceStack
  -- Waits to be let go on.
  | block
  -- Starts a thread on the named context, which is made if there is none of the name.
  | create (context : String) (address framePointer : Nat) (script : List Action)
deriving Repr, Inhabited

-- What a thread sees of itself.
structure Observation where
  address : Option Nat
  surfaceAddress : Nat
  framePointer : Nat
  status : Status
  serial : Option UInt64
  stackSize : Option Nat
  resumeBlocked : Bool
  name : String
  ledger : Instance.Ledger
deriving DecidableEq, Repr

inductive Note where
  | entered (address framePointer : Nat)
  | observed (what : Observation)
  | guardLeft (label : String) (status : Status) (unwinding : Bool)
  | attempted (caught : Bool) (status : Status)
  | replaced
  | unblocked
  | created (serial : UInt64)
deriving DecidableEq, Repr

-- One level of an entry point's frames: the rest of a script, a frame that reports,
-- or one that stops an unwinding.
inductive Frame where
  | rest (script : List Action)
  | guard (label : String)
  | attempt
deriving Repr

-- How an entry point is left.
inductive Departure where
  | returned
  -- By a request that carries the serial of the thread that made it.
  | terminated (serial : UInt64)
  | panicked
deriving DecidableEq, Repr

end VmLauncher.Threads
