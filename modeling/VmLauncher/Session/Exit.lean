import VmLauncher.Session.Basic
-- The instance of a run, and how a run ends.
namespace VmLauncher.Session

-- Makes an instance, and installs it if it is the first. The answer says whether it
-- was.
def install (s : Session) (substrate : Monitor.Substrate) (verbose : UInt32) : Bool × Session :=
  let made : Instance := { substrate, verbose }
  let s := s.note firstThread made.creationEvent
  match s.installed with
  | none => (true, { s with installed := some made })
  | some _ => (false, s)

-- Sees to it that there is an instance.
def ensureInstalled (s : Session) (verbose : UInt32) : Session :=
  match s.installed with
  | some _ => s
  | none => (s.install .pthread verbose).2

-- Publishes the boot arguments, if there is an instance; whether they were the first.
def publish? (s : Session) (arguments : Options.BootArguments) : Option (Bool × Session) :=
  s.installed.map fun i =>
    let (published, i) := i.publish arguments
    (published, { s with installed := some i }.note firstThread
      (Instance.publicationEvent arguments))

-- The end of a run, by a request of one thread: the code that the host reports. The
-- instance, if there is one, notes the request.
def exit (s : Session) (thread : String) (code : Int) : Nat × Session :=
  let events :=
    match s.installed with
    | none => []
    | some i => i.exitEvents code
  (Instance.reportedCode code, s.noteAll thread events)

def exitWith (s : Session) (thread : String) (status : Instance.ExitStatus) : Nat × Session :=
  s.exit thread status.code

-- The end of a run that cannot go on.
def fail (s : Session) (thread : String) (status : Instance.ExitStatus) : Nat × Session :=
  (s.note thread (Instance.failureEvent status)).exitWith thread status

end VmLauncher.Session
