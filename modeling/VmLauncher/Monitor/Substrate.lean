-- What a monitor is built on.
namespace VmLauncher.Monitor

inductive Substrate where
  -- A lock and a condition variable of the host.
  | pthread
  -- A flag and a generation count under a short-lived lock.
  | portable
deriving DecidableEq, Repr

def Substrate.name : Substrate → String
  | pthread => "Pthread"
  | portable => "Portable"

end VmLauncher.Monitor
