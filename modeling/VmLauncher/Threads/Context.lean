-- Execution contexts: the runtime's record of a thread, as far as it is shared.
namespace VmLauncher.Threads

inductive Status where
  | created
  | running
  | terminating
  | terminated
deriving DecidableEq, Repr

def Status.name : Status → String
  | created => "Created"
  | running => "Running"
  | terminating => "Terminating"
  | terminated => "Terminated"

structure Context where
  -- The runtime's own handle, passed back to it untouched.
  address : Nat
  framePointer : Nat := 0
  status : Status := .created
deriving DecidableEq, Repr

-- Moves the status on if it is where the move starts, and leaves it alone otherwise.
def Context.advance (c : Context) (start goal : Status) : Context :=
  if c.status = start then { c with status := goal } else c

end VmLauncher.Threads
