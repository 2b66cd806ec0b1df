import VmLauncher.Monitor.Move
-- A monitor made of the host's own lock and condition variable, as far as the host
-- promises: one thread has the lock, and every waiting thread is woken by a
-- broadcast.
namespace VmLauncher.Monitor

namespace Pthread

inductive Place where
  | outside
  | inside
  -- In line for the lock.
  | queued
  -- On the condition variable; `timed` if it gives up at some time.
  | waiting (timed : Bool)
deriving DecidableEq, Repr

def awaken : Place → Place
  | .waiting _ => .queued
  | p => p

end Pthread

structure Pthread where
  places : List Pthread.Place := []
deriving DecidableEq, Repr

namespace Pthread

def place (m : Pthread) (t : Nat) : Place := m.places[t]?.getD .outside

def put (m : Pthread) (t : Nat) (p : Place) : Pthread := ⟨m.places.set t p⟩

def isHeld (m : Pthread) : Bool := m.places.any (· == .inside)

def lock (m : Pthread) (t : Nat) : Pthread := m.put t (if m.isHeld then .queued else .inside)

def call? (m : Pthread) (t : Nat) (c : Call) : Option Pthread :=
  match c, m.place t with
  | .enter, .outside => some (m.lock t)
  | .exit, .inside => some (m.put t .outside)
  | .wait, .inside => some (m.put t (.waiting false))
  | .waitUntil true, .inside => some m
  | .waitUntil false, .inside => some (m.put t (.waiting true))
  | .broadcast, .inside => some ⟨m.places.map awaken⟩
  | _, _ => none

def step? (m : Pthread) : Move → Option Pthread
  | .call t c _ => if t < m.places.length then m.call? t c else none
  | .proceed t =>
      match m.place t with
      | .queued => if m.isHeld then none else some (m.put t .inside)
      | _ => none
  | .rouse t =>
      match m.place t with
      | .waiting _ => some (m.put t .queued)
      | _ => none
  | .expire t =>
      match m.place t with
      | .waiting true => some (m.put t .queued)
      | _ => none

end Pthread

end VmLauncher.Monitor
