import VmLauncher.Threads.Pool
-- Running a pool until every thread is finished or waits.
namespace VmLauncher.Threads

-- Steps of a thread whose entry point does nothing.
def lifeLength : Nat := 13

mutual

-- A bound on the steps that an action leads to, those of threads it starts included.
def Action.weight : Action → Nat
  | .attempt script => Action.weights script + 3
  | .create _ _ _ script => Action.weights script + lifeLength + 2
  | _ => 2

def Action.weights : List Action → Nat
  | [] => 0
  | a :: as => a.weight + Action.weights as

end

def Frame.weight : Frame → Nat
  | .rest script => Action.weights script + 1
  | .guard _ => 1
  | .attempt => 1

def Frame.weights (frames : List Frame) : Nat :=
  frames.foldr (fun f n => f.weight + n) 0

-- A bound on the steps that a thread has left. Every step lowers the sum over all
-- threads.
def Thread.weight (t : Thread) : Nat :=
  match t.stage with
  | .starting => Action.weights t.script + 13
  | .stackInstalled => Action.weights t.script + 12
  | .terminationCaptured => Action.weights t.script + 11
  | .stateStored => Action.weights t.script + 10
  | .frameStored => Action.weights t.script + 9
  | .running frames => Frame.weights frames + 7
  | .unwinding _ frames => Frame.weights frames + 7
  | .left _ => 6
  | .closing _ => 5
  | .stateCleared _ => 4
  | .stackReleased _ => 3
  | .terminationReleased _ => 2
  | .argumentsReleased _ => 1
  | .finished => 0

namespace Pool

def weight (p : Pool) : Nat := p.threads.foldr (fun t n => t.weight + n) 0

-- The first thread that can go on.
def next? (p : Pool) : Option Nat := p.threads.findIdx? Thread.canStep

def isSettled (p : Pool) : Bool := p.next?.isNone

def settleIn : Nat → Pool → Pool
  | 0, p => p
  | steps + 1, p =>
      match p.next? with
      | none => p
      | some i => settleIn steps (p.step i)

-- Runs the first thread that can go on, again and again.
def settle (p : Pool) : Pool := settleIn p.weight p

end Pool

end VmLauncher.Threads
