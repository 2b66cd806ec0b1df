import VmLauncher.Session.Arguments
import VmLauncher.Session.Sizes
import VmLauncher.Session.Threads
-- The program itself: it reads its command line, looks for the boot image and starts
-- the first virtual processor.
namespace VmLauncher.Launch

open Host Options

-- What the program calls itself: the last name in the path that it was started by,
-- if that is one.
def programNameOf (invokedAs : Option String) : String :=
  match ((Files.steps (invokedAs.getD "")).filter (· ≠ ".")).getLast? with
  | none => Usage.programName
  | some name => if name = ".." then Usage.programName else name

-- The first image file that cannot be found, and why.
def missingImage? (fs : Files) (c : Configuration) : Option (ImageKind × Error) :=
  ImageKind.all.findSome? fun kind =>
    match fs.find (c.image kind) with
    | .ok _ => none
    | .error e => some (kind, e)

def acceptedEvent (c : Configuration) : Journal.Event :=
  ⟨.debug, .launcher, "boot configuration accepted",
    [("initial_heap", .number c.initialHeap), ("maximum_heap", .number c.maximumHeap),
     ("runtime_args", .quotedList c.runtimeArgs)]⟩

def missingImageEvent (path : String) (e : Error) : Journal.Event :=
  ⟨.error, .launcher, "boot image missing", [("path", .text path), ("error", .text e.message)]⟩

def missingImageComplaint (program : String) (kind : ImageKind) (path : String) (e : Error) :
    String :=
  s!"{program}: can't find boot image {kind.description} file \"{path}\": " ++ e.message ++ "\n"

def startedEvent (serial : UInt64) : Journal.Event :=
  ⟨.debug, .launcher, "first virtual processor started", [("serial", .number serial.toNat)]⟩

-- The context of the first virtual processor.
def firstContext : Nat := 1

def runningEvent (arguments : List String) : Journal.Event :=
  ⟨.info, .launcher, "first virtual processor running",
    [("context", .number firstContext), ("frame_pointer", .number 0),
     ("args", .quotedList arguments)]⟩

-- The first virtual processor. Its entry point does not come back: it shows its
-- arguments and ends the run from within its thread.
def startProcessor (s : Session) (owner : Instance) (arguments : List String) : Nat × Session :=
  let (serial, _, s) := s.runThread owner [.block] firstContext 0
  let s := s.noteAll Session.firstThread
    [startedEvent serial, Instance.monitorEvent owner.substrate]
  let thread := s!"bootvm-vp-{serial}"
  (s.note thread (runningEvent arguments)).exitWith thread .success

-- A configuration that was accepted: the journal and the instance come first, then
-- the images, and the arguments are published before anything reads them.
def boot (program : String) (s : Session) (c : Configuration) : Nat × Session :=
  let (started, s) := s.startJournal c
  let s :=
    if started then s else s.printErrors (program ++ ": " ++ Session.journalRefusal ++ "\n")
  let s := s.note Session.firstThread (acceptedEvent c)
  let (_, s) := s.install .pthread c.verbose
  match missingImage? s.files c with
  | some (kind, e) =>
      let path := c.image kind
      ((s.printErrors (missingImageComplaint program kind path e)).note Session.firstThread
        (missingImageEvent path e)).fail Session.firstThread .miscTrouble
  | none =>
      let s := ((s.publish? c.bootArguments).map (·.2)).getD s
      match s.installed with
      | none => s.fail Session.firstThread .miscTrouble
      | some owner => startProcessor s owner s.residual

-- The whole run: the code that the host reports.
def run (invokedAs : Option String) (args : List String) (s : Session) : Nat × Session :=
  let program := programNameOf invokedAs
  match s.readOptions { program, pageSize := s.surroundings.pageSize } args with
  | (.error e, s) =>
      (s.printErrors (program ++ ": " ++ e.message ++ "\n")).exitWith Session.firstThread
        .badCommandLineArg
  | (.ok .exit, s) => s.exitWith Session.firstThread .success
  | (.ok (.launch c), s) => boot program s c

end VmLauncher.Launch
