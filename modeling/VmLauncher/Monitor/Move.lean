-- What threads do with a monitor, and what the host does to threads that wait.
namespace VmLauncher.Monitor

inductive Call where
  | enter
  | exit
  | wait
  -- Waits until a time, which may be over already.
  | waitUntil (past : Bool)
  | broadcast
deriving DecidableEq, Repr

-- Threads are numbered.
inductive Move where
  -- A thread makes a call. Where the call gives up the lock it may wake one thread
  -- that sleeps for it, and `wakes` is that thread.
  | call (thread : Nat) (c : Call) (wakes : Option Nat)
  -- A thread that is awake goes on with the call it is in.
  | proceed (thread : Nat)
  -- A thread wakes up for no reason.
  | rouse (thread : Nat)
  -- The time that a thread waits for is over.
  | expire (thread : Nat)
deriving DecidableEq, Repr

end VmLauncher.Monitor
