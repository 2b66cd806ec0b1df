import VmLauncher.Monitor.Portable
import VmLauncher.Monitor.Pthread
import VmLauncher.Monitor.Substrate
-- One thread drives a monitor, step by step, while others contend for it or wait on
-- it. After every step the others go on until none of them can.
namespace VmLauncher.Monitor

-- A monitor on either substrate.
inductive State where
  | pthread (m : Pthread)
  | portable (m : Portable)
deriving DecidableEq, Repr

namespace State

def start : Substrate → State
  | .pthread => .pthread { places := [.outside] }
  | .portable => .portable (Portable.start 1)

def threads : State → Nat
  | pthread m => m.places.length
  | portable m => m.places.length

-- One more thread, outside.
def addThread : State → State
  | pthread m => pthread ⟨m.places ++ [.outside]⟩
  | portable m => portable { m with places := m.places ++ [.outside] }

def isInside (s : State) (t : Nat) : Bool :=
  match s with
  | pthread m => m.place t == .inside
  | portable m => m.place t == .inside

def step? (s : State) (move : Move) : Option State :=
  match s with
  | pthread m => (m.step? move).map pthread
  | portable m => (m.step? move).map portable

-- The thread that giving up the lock wakes here: the first that sleeps for it.
def firstSleeper? : State → Option Nat
  | pthread _ => none
  | portable m => m.places.findIdx? Portable.isAsleep

-- A move that cannot be made changes nothing.
def move (s : State) (m : Move) : State := (s.step? m).getD s

def call (s : State) (t : Nat) (c : Call) : State := s.move (.call t c s.firstSleeper?)

end State

-- What the other threads are there for.
inductive Role where
  -- Enters and leaves.
  | contender
  -- Waits, again and again, until it is let go, and leaves.
  | parked (timed : Bool)
deriving DecidableEq, Repr

structure Drill where
  state : State
  -- The role of every thread but the driving one, which is number zero.
  roles : List Role := []
  -- Whether parked threads that come in may leave.
  letGo : Bool := false
  waiting : Nat := 0
  woken : Nat := 0
  contenders : Nat := 0
deriving DecidableEq, Repr

namespace Drill

def start (substrate : Substrate) : Drill := { state := State.start substrate }

def held (d : Drill) : Bool := d.state.isInside 0

def waitCall (timed : Bool) : Call := if timed then .waitUntil false else .wait

-- What a thread does once it is inside.
def act (d : Drill) (t : Nat) : Role → Drill
  | .contender => { d with state := d.state.call t .exit }
  | .parked timed =>
      { d with state := d.state.call t (if d.letGo then .exit else waitCall timed) }

-- One thing that one of the other threads can do, if there is any.
def next? (d : Drill) : Option Drill :=
  let numbered := d.roles.zipIdx.map fun (role, i) => (role, i + 1)
  match numbered.find? fun (_, t) => d.state.isInside t with
  | some (role, t) => some (d.act t role)
  | none =>
      (numbered.findSome? fun (_, t) => d.state.step? (.proceed t)).map fun state =>
        { d with state }

def settleIn : Nat → Drill → Drill
  | 0, d => d
  | n + 1, d =>
      match d.next? with
      | none => d
      | some d => settleIn n d

-- A thread comes in and acts, and may have to look at the lock twice before that.
def settle (d : Drill) : Drill := settleIn (4 * d.roles.length + 4) d

def addThread (d : Drill) (role : Role) : Nat × Drill :=
  (d.state.threads, { d with state := d.state.addThread, roles := d.roles ++ [role] })

-- Another thread enters as soon as it can, and leaves. Whether it was in.
def contend (d : Drill) : Bool × Drill :=
  let (t, d) := d.addThread .contender
  let d := { d with state := d.state.call t .enter }
  if d.held then (false, { d with contenders := d.contenders + 1 }) else (true, d.settle)

def park (d : Drill) (timed : Bool) : Nat → Drill
  | 0 => d
  | n + 1 =>
      let (t, d) := d.addThread (.parked timed)
      let d := { d with state := d.state.call t .enter, waiting := d.waiting + 1 }
      d.settle.park timed n

-- Leaves, after which the threads that contended come in and leave. Whether there
-- were any.
def exit (d : Drill) : Bool × Drill :=
  let contended : Bool := 0 < d.contenders
  (contended, { d with state := d.state.call 0 .exit, contenders := 0 }.settle)

def enter (d : Drill) : Drill := { d with state := d.state.call 0 .enter }

def broadcast (d : Drill) : Drill := { d with state := d.state.call 0 .broadcast }

-- Waits for a time that is over.
def waitUntilPast (d : Drill) : Drill := { d with state := d.state.call 0 (.waitUntil true) }

-- Waits until a time is over; the others may come in meanwhile.
def timeOut (d : Drill) : Drill :=
  let d := { d with state := d.state.call 0 (.waitUntil false) }.settle
  let d := { d with state := d.state.move (.expire 0) }
  { d with state := d.state.move (.proceed 0) }

-- Lets the parked threads go, and wakes them.
def release (d : Drill) : Drill :=
  let d := { d.enter with letGo := true }.broadcast
  let d := { d with state := d.state.call 0 .exit }.settle
  { d with letGo := false, woken := d.woken + d.waiting, waiting := 0 }

-- A thread comes in so many times and adds one to a count each time it is in.
def countRounds (d : Drill) (t : Nat) : Nat → Nat × Drill
  | 0 => (0, d)
  | n + 1 =>
      let d := { d with state := d.state.call t .enter }
      let added := if d.state.isInside t then 1 else 0
      let d := { d with state := d.state.call t .exit }
      let (total, d) := d.countRounds t n
      (added + total, d)

def count (d : Drill) (rounds : Nat) : Nat → Nat × Drill
  | 0 => (0, d)
  | n + 1 =>
      let (t, d) := d.addThread .contender
      let (first, d) := d.countRounds t rounds
      let (others, d) := d.count rounds n
      (first + others, d)

end Drill

end VmLauncher.Monitor
