import VmLauncher.Instance.Basic
import VmLauncher.Signal
import VmLauncher.Threads.Script
-- Threads of one instance. A step of one thread is one step of its life; any order
-- of steps is a run.
namespace VmLauncher.Threads

open Instance (Resource)

def replacementStackSize : Nat := 16384

-- Where a thread is. Resources are taken on the way to `running` and given back on
-- the way from `left`.
inductive Stage where
  | starting
  | stackInstalled
  | terminationCaptured
  | stateStored
  | frameStored
  | running (frames : List Frame)
  | unwinding (cause : Departure) (frames : List Frame)
  | left (how : Departure)
  | closing (how : Departure)
  | stateCleared (how : Departure)
  | stackReleased (how : Departure)
  | terminationReleased (how : Departure)
  | argumentsReleased (how : Departure)
  | finished
deriving Repr

-- What a thread can see of itself through its own storage.
structure LocalState where
  context : Nat
  serial : UInt64
deriving DecidableEq, Repr

-- The signal stack that the host has registered for a thread.
inductive RegisteredStack where
  | none
  | own
  | replacement
deriving DecidableEq, Repr

def RegisteredStack.size? : RegisteredStack → Option Nat
  | none => Option.none
  | own => some Signal.stackSize
  | replacement => some replacementStackSize

structure Thread where
  serial : UInt64
  context : Nat
  framePointer : Nat
  script : List Action
  stage : Stage := .starting
  localState : Option LocalState := none
  registered : RegisteredStack := .none
  resumeBlocked : Bool := false
  -- How often it may pass a `block`.
  permits : Nat := 0
deriving Repr

namespace Thread

def name (t : Thread) : String := s!"bootvm-vp-{t.serial}"

def isFinished (t : Thread) : Bool :=
  match t.stage with
  | .finished => true
  | _ => false

-- Whether the thread waits for a permit.
def isBlocked (t : Thread) : Bool :=
  match t.stage with
  | .running (.rest (.block :: _) :: _) => t.permits == 0
  | _ => false

def canStep (t : Thread) : Bool := !t.isFinished && !t.isBlocked

-- Whether the thread owns a resource, read off from where it is.
def owns (t : Thread) : Resource → Bool
  | .startArguments =>
      match t.stage with
      | .argumentsReleased _ | .finished => false
      | _ => true
  | .signalStack =>
      match t.stage with
      | .starting | .stackReleased _ | .terminationReleased _ | .argumentsReleased _
      | .finished => false
      | _ => true
  | .terminationContext =>
      match t.stage with
      | .starting | .stackInstalled | .terminationReleased _ | .argumentsReleased _
      | .finished => false
      | _ => true

end Thread

-- Contexts are numbered in the order in which they were made. Scripts know them by
-- names, and a name may move on to another context.
structure Pool where
  owner : Instance
  contexts : List Context := []
  names : List (String × Nat) := []
  threads : List Thread := []
  -- What entry points reported, by the address of the context.
  notes : List (Nat × Note) := []
  -- Journal events with the name of the thread that they are from.
  journal : List (String × Journal.Event) := []
deriving Repr

namespace Pool

-- A context that is not there reads as a new one.
def context (p : Pool) (i : Nat) : Context := p.contexts[i]?.getD { address := 0 }

def named? (p : Pool) (name : String) : Option Nat := p.names.lookup name

-- Makes a context and gives it a name, also where another one had the name.
def addContext (p : Pool) (name : String) (address : Nat) : Pool :=
  { p with
    contexts := p.contexts ++ [{ address }]
    names := (name, p.contexts.length) :: p.names.filter fun (n, _) => n ≠ name }

-- Makes a context only if there is none of the name; its number.
def ensureContext (p : Pool) (name : String) (address : Nat) : Nat × Pool :=
  match p.named? name with
  | some i => (i, p)
  | none => (p.contexts.length, p.addContext name address)

def updateContext (p : Pool) (i : Nat) (f : Context → Context) : Pool :=
  { p with contexts := p.contexts.set i (f (p.context i)) }

def advance (p : Pool) (i : Nat) (start goal : Status) : Pool :=
  p.updateContext i (·.advance start goal)

def allocate (p : Pool) (r : Resource) : Pool := { p with owner := p.owner.allocate r }

def release (p : Pool) (r : Resource) : Pool := { p with owner := p.owner.release r }

def log (p : Pool) (thread : String) (level : Journal.Level) (source : Journal.Source)
    (message : String) (fields : List (String × Journal.Value)) : Pool :=
  { p with journal := p.journal ++ [(thread, ⟨level, source, message, fields⟩)] }

def report (p : Pool) (t : Thread) (note : Note) : Pool :=
  { p with notes := p.notes ++ [((p.context t.context).address, note)] }

-- Makes a thread on a context. Its serial and its start arguments exist before the
-- host is asked for the thread; if the host refuses, the arguments are given back
-- and the serial is gone.
def createOn (p : Pool) (creator : String) (context framePointer : Nat) (script : List Action)
    (granted : Bool) : UInt64 × Pool :=
  let (serial, owner) := p.owner.takeSerial
  let p := { p with owner }
  let p := p.log creator .trace .thread "thread create"
    [("context", .number (p.context context).address), ("frame_pointer", .number framePointer),
     ("serial", .number serial.toNat)]
  let p := p.allocate .startArguments
  if granted then
    let thread : Thread := { serial, context, framePointer, script }
    let p := { p with threads := p.threads ++ [thread] }
    (serial, p.log creator .debug .thread "thread created"
      [("serial", .number serial.toNat), ("pthread", .ofHost)])
  else (serial, p.release .startArguments)

-- As `createOn`, for the context of a name, which is made if there is none.
def create (p : Pool) (creator name : String) (address framePointer : Nat)
    (script : List Action) (granted : Bool) : UInt64 × Pool :=
  let (context, p) := p.ensureContext name address
  p.createOn creator context framePointer script granted

-- Lets threads that wait go on: those on contexts with the address of the named one.
def letGo (p : Pool) (name : String) : Pool :=
  match p.named? name with
  | none => p
  | some i =>
      let meant (t : Thread) : Bool :=
        t.isBlocked && (p.context t.context).address == (p.context i).address
      { p with threads := p.threads.map fun t =>
          if meant t then { t with permits := t.permits + 1 } else t }

-- The context of a thread that asks for it. A thread that no instance made has none,
-- and neither has one that is not set up yet or already given up.
def currentContext? (p : Pool) (asker : Option Thread) : Option Context :=
  (asker.bind (·.localState)).map fun s => p.context s.context

def currentSerial? (asker : Option Thread) : Option UInt64 :=
  (asker.bind (·.localState)).map (·.serial)

-- As `currentContext?`, for compiled code, to which zero stands for none.
def currentAddress (p : Pool) (asker : Option Thread) : Nat :=
  ((p.currentContext? asker).map (·.address)).getD 0

def observation (p : Pool) (t : Thread) : Observation :=
  let seen := p.currentContext? (some t)
  { address := seen.map (·.address)
    surfaceAddress := p.currentAddress (some t)
    framePointer := (seen.map (·.framePointer)).getD 0
    status := (p.context t.context).status
    serial := currentSerial? (some t)
    stackSize := t.registered.size?
    resumeBlocked := t.resumeBlocked
    name := t.name
    ledger := p.owner.ledger }

-- What a thread does on its own behalf when it asks for its end: its status moves on
-- at once, before anything is unwound. A thread that runs has its local state.
def terminate (p : Pool) (t : Thread) (frames : List Frame) : Pool × Thread :=
  let p := p.log t.name .trace .thread "thread terminate" []
  match t.localState with
  | none => (p, { t with stage := .unwinding .panicked frames })
  | some s =>
      (p.advance s.context .running .terminating,
       { t with stage := .unwinding (.terminated s.serial) frames })

-- One action of a script; `rest` is what follows it and `frames` lies below.
def perform (p : Pool) (t : Thread) (a : Action) (rest : List Action) (frames : List Frame) :
    Pool × Thread :=
  let onward : Thread := { t with stage := .running (.rest rest :: frames) }
  match a with
  | .observe => (p.report t (.observed (p.observation t)), onward)
  | .guard label => (p, { t with stage := .running (.rest rest :: .guard label :: frames) })
  | .leave => (p, { t with stage := .running (.rest [] :: frames) })
  | .terminate => p.terminate t (.rest rest :: frames)
  | .panic => (p, { t with stage := .unwinding .panicked (.rest rest :: frames) })
  | .attempt script =>
      (p, { t with stage := .running (.rest script :: .attempt :: .rest rest :: frames) })
  | .setUpTraps =>
      (p.log t.name .trace .signal "setup trap handling" [], { onward with resumeBlocked := true })
  | .yield => (p.log t.name .trace .thread "thread yield" [], onward)
  | .replaceStack => (p.report t .replaced, { onward with registered := .replacement })
  | .block =>
      if t.permits = 0 then (p, t)
      else (p.report t .unblocked, { onward with permits := t.permits - 1 })
  | .create name address framePointer script =>
      let (serial, p) := p.create t.name name address framePointer script true
      (p.report t (.created serial), onward)

-- The signal stack goes: delivery is switched off first, whatever is registered.
def dropStack (p : Pool) (t : Thread) : Pool × Thread :=
  let p :=
    if t.registered = .own then p
    else p.log t.name .debug .signal
      "signal stack was replaced; the installed one is not ours to free"
      [("installed", .ofHost), ("ours", .ofHost)]
  let p := p.release .signalStack
  (p.log t.name .trace .signal "signal stack released" [("base", .ofHost)],
   { t with registered := .none })

def departureLog (p : Pool) (t : Thread) : Departure → Pool
  | .returned =>
      p.log t.name .debug .thread "runtime entry returned" [("serial", .number t.serial.toNat)]
  | .terminated _ =>
      p.log t.name .trace .thread "thread terminated" [("serial", .number t.serial.toNat)]
  | .panicked => p

-- One step of one thread's life.
def stepThread (p : Pool) (t : Thread) : Pool × Thread :=
  match t.stage with
  | .starting =>
      (((p.allocate .signalStack).log t.name .trace .signal "signal stack installed"
        [("base", .ofHost), ("size", .number Signal.stackSize)]),
       { t with stage := .stackInstalled, registered := .own })
  | .stackInstalled => (p.allocate .terminationContext, { t with stage := .terminationCaptured })
  | .terminationCaptured =>
      (p, { t with stage := .stateStored, localState := some ⟨t.context, t.serial⟩ })
  | .stateStored =>
      (p.updateContext t.context ({ · with framePointer := t.framePointer }),
       { t with stage := .frameStored })
  | .frameStored =>
      let p := p.advance t.context .created .running
      let address := (p.context t.context).address
      let p := p.log t.name .trace .thread "thread startup: branching to runtime"
        [("context", .number address), ("frame_pointer", .number t.framePointer)]
      (p.report t (.entered address t.framePointer),
       { t with stage := .running [.rest t.script] })
  | .running [] => (p, { t with stage := .left .returned })
  | .running (.rest [] :: frames) => (p, { t with stage := .running frames })
  | .running (.rest (a :: rest) :: frames) => p.perform t a rest frames
  | .running (.guard label :: frames) =>
      (p.report t (.guardLeft label (p.context t.context).status false),
       { t with stage := .running frames })
  | .running (.attempt :: frames) =>
      (p.report t (.attempted false (p.context t.context).status),
       { t with stage := .running frames })
  | .unwinding cause [] => (p, { t with stage := .left cause })
  | .unwinding cause (.rest _ :: frames) => (p, { t with stage := .unwinding cause frames })
  | .unwinding cause (.guard label :: frames) =>
      (p.report t (.guardLeft label (p.context t.context).status true),
       { t with stage := .unwinding cause frames })
  | .unwinding _ (.attempt :: frames) =>
      (p.report t (.attempted true (p.context t.context).status),
       { t with stage := .running frames })
  | .left how =>
      ((p.advance t.context .running .terminating).departureLog t how,
       { t with stage := .closing how })
  | .closing how => (p, { t with stage := .stateCleared how, localState := none })
  | .stateCleared how =>
      let (p, t) := p.dropStack t
      (p, { t with stage := .stackReleased how })
  | .stackReleased how =>
      (p.release .terminationContext, { t with stage := .terminationReleased how })
  | .terminationReleased how =>
      (p.release .startArguments, { t with stage := .argumentsReleased how })
  | .argumentsReleased how =>
      let p := p.advance t.context .terminating .terminated
      let p :=
        if how = .panicked then p.log t.name .error .thread "runtime thread panicked" [] else p
      (p, { t with stage := .finished })
  | .finished => (p, t)

-- One step of the thread at an index. A thread that is finished, blocked or not there
-- stays as it is.
def step (p : Pool) (i : Nat) : Pool :=
  match p.threads[i]? with
  | none => p
  | some t =>
      if t.canStep then
        let (p, t) := p.stepThread t
        { p with threads := p.threads.set i t }
      else p

def run (p : Pool) (order : List Nat) : Pool := order.foldl step p

end Pool

end VmLauncher.Threads
