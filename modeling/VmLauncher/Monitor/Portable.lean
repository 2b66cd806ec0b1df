import VmLauncher.Monitor.Move
-- A monitor made of a flag and a generation count. Each move is one stay inside the
-- short-lived lock that guards the two, so moves do not overlap.
namespace VmLauncher.Monitor

-- Where a thread is.
inductive Place where
  | outside
  | inside
  -- Asleep until the flag is given up.
  | asleep
  -- About to look at the flag; `woken` if it slept for it.
  | arriving (woken : Bool)
  -- Asleep until the generation is another than the one seen; `timed` if it gives up
  -- at some time.
  | dozing (seen : UInt64) (timed : Bool)
  -- Awake, about to look at the generation.
  | checking (seen : UInt64) (timed : Bool)
deriving DecidableEq, Repr

structure Portable where
  held : Bool := false
  generation : UInt64 := 0
  places : List Place := []
deriving DecidableEq, Repr

namespace Portable

def place (m : Portable) (t : Nat) : Place := m.places[t]?.getD .outside

def put (m : Portable) (t : Nat) (p : Place) : Portable := { m with places := m.places.set t p }

def isAsleep (p : Place) : Bool := p == .asleep

-- Takes the flag if it is free, and otherwise sleeps for it.
def acquire (m : Portable) (t : Nat) : Portable :=
  if m.held then m.put t .asleep else { m with held := true }.put t .inside

-- Gives up the flag and wakes one of the threads that sleep for it. There is no
-- giving up that wakes none while one sleeps.
def release? (m : Portable) (wakes : Option Nat) : Option Portable :=
  let m := { m with held := false }
  match wakes with
  | none => if m.places.any isAsleep then none else some m
  | some u => if m.place u = .asleep then some (m.put u (.arriving true)) else none

def awaken : Place → Place
  | .dozing seen timed => .checking seen timed
  | p => p

-- A call, for a thread that may make it: only `enter` is made from outside, and
-- every other call from inside.
def call? (m : Portable) (t : Nat) (c : Call) (wakes : Option Nat) : Option Portable :=
  match c, m.place t with
  | .enter, .outside => some (m.acquire t)
  | .exit, .inside => (m.release? wakes).map (·.put t .outside)
  | .wait, .inside => (m.release? wakes).map (·.put t (.dozing m.generation false))
  | .waitUntil true, .inside => some m
  | .waitUntil false, .inside => (m.release? wakes).map (·.put t (.dozing m.generation true))
  | .broadcast, .inside =>
      some { m with generation := m.generation + 1, places := m.places.map awaken }
  | _, _ => none

-- What one move leads to, if it can be made.
def step? (m : Portable) : Move → Option Portable
  | .call t c wakes => if t < m.places.length then m.call? t c wakes else none
  | .proceed t =>
      match m.place t with
      | .arriving _ => some (m.acquire t)
      | .checking seen timed =>
          some (if m.generation = seen then m.put t (.dozing seen timed) else m.acquire t)
      | _ => none
  | .rouse t =>
      match m.place t with
      | .asleep => some (m.put t (.arriving true))
      | .dozing seen timed => some (m.put t (.checking seen timed))
      | _ => none
  | .expire t =>
      match m.place t with
      | .dozing _ true => some (m.put t (.arriving false))
      | _ => none

-- So many threads, all outside.
def start (threads : Nat) : Portable := { places := List.replicate threads .outside }

def run? (m : Portable) : List Move → Option Portable
  | [] => some m
  | move :: moves => (m.step? move).bind fun m => m.run? moves

def Reachable (threads : Nat) (m : Portable) : Prop :=
  ∃ moves, (start threads).run? moves = some m

end Portable

end VmLauncher.Monitor
