import VmLauncher.Monitor.Drill
import VmLauncher.Session.Exit
import VmLauncher.Threads.Settle
-- Threads, signals and monitors of a run, as its first thread asks for them.
namespace VmLauncher.Session

-- The number of a failure, for compiled code; one without a number counts as a bad
-- argument.
def numberOf (e : Host.Error) : Int := e.errno?.getD 22

-- Makes a thread on a context of its own and lets all threads go on until they are
-- finished or wait.
def runThread (s : Session) (owner : Instance) (script : List Threads.Action)
    (context framePointer : Nat) : UInt64 × Threads.Pool × Session :=
  let (serial, pool) :=
    ({ owner : Threads.Pool }).create firstThread "" context framePointer script true
  let pool := pool.settle
  let s := { s with installed := some pool.owner }
  (serial, pool, pool.journal.foldl (fun s (thread, e) => s.note thread e) s)

-- As `runThread`, for compiled code, which may come before there is an instance or
-- without an entry point.
def createThread (s : Session) (entry : Option (List Threads.Action)) (context framePointer : Nat) :
    Option Threads.Pool × Session :=
  match s.installed, entry with
  | none, _ =>
      (none, s.note firstThread
        ⟨.error, .surface, "thread create before bootvm_initialize", []⟩)
  | some _, none =>
      (none, s.note firstThread
        ⟨.error, .surface, "thread create with a null entry point",
          [("context", .number context)]⟩)
  | some owner, some script =>
      let (_, pool, s) := s.runThread owner script context framePointer
      (some pool, s)

-- The first thread asks for its own end, which only threads of an instance may do.
def terminate (s : Session) : Nat × Session :=
  (s.noteAll firstThread
    [⟨.trace, .thread, "thread terminate", []⟩,
     ⟨.error, .thread, "terminate called on a thread the runtime does not own", []⟩]).fail
    firstThread .miscTrouble

-- What the first thread sees of itself. No instance made it.
def currentAddress (s : Session) : Nat :=
  match s.installed with
  | none => 0
  | some owner => ({ owner : Threads.Pool }).currentAddress none

def currentSerial? : Option UInt64 := Threads.Pool.currentSerial? none

def yield (s : Session) : Session := s.note firstThread ⟨.trace, .thread, "thread yield", []⟩

-- Whether threads can be bound to processors at all.
def bindSupported : Bool := true

-- Binds the thread to a processor, counted from zero: zero, or the number of the failure.
def bind (s : Session) (processor : Int) : Int × Session :=
  if processor < 0 then (numberOf .invalidArgument, s)
  else
    let rc := if processor < s.surroundings.processors then 0 else numberOf .invalidArgument
    (rc, s.note firstThread ⟨.trace, .thread, "thread bind", [("cpu", .number processor)]⟩)

-- What was noted about signals, with the session as it is after them.
def withSignals (s : Session) (signals : Signal.Station) : Session :=
  { s with signals := { signals with journal := [] } }.noteAll firstThread signals.journal

def setUpTraps (s : Session) : Session := s.withSignals s.signals.setUpTraps

-- Sends the resume signal to the thread itself and waits for it.
def resumeSelf? (s : Session) : Option Session :=
  if s.signals.resumeBlocked then s.signals.sendResume.awaitResume?.map s.withSignals else none

-- Installs the handler for all traps: zero, or the number of the failure.
def installTrapHandler (s : Session) : Int × Session :=
  match s.signals.installHandler Signal.trapSignals with
  | (.ok (), station) => (0, s.withSignals station)
  | (.error e, station) => (numberOf e, s.withSignals station)

-- Raises a signal in the thread: the signal that a handler saw, or zero.
def raise (s : Session) (signal : Int) : Int × Session :=
  let ((seen, _), station) := s.signals.raise signal
  (seen, s.withSignals station)

-- What monitors are built on: what the instance is, once there is one.
def substrate (s : Session) : Monitor.Substrate :=
  match s.installed with
  | some i => i.substrate
  | none => .pthread

-- A monitor for one drill. So many threads come to wait and are let go; the answer
-- says how many went.
def drillMonitor (s : Session) (count : Nat) : Nat × Session :=
  let drill := ((Monitor.Drill.start s.substrate).park false count).release
  (drill.woken, s.noteAll firstThread
    [Instance.monitorEvent s.substrate,
     ⟨.trace, .monitor, "monitor destroy", [("handle", .ofHost)]⟩])

end VmLauncher.Session
