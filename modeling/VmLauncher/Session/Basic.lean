import VmLauncher.Host.Console
import VmLauncher.Instance.Basic
import VmLauncher.Journal.Recorder
import VmLauncher.Options.Parser
import VmLauncher.Signal
-- One run of the program, from its start to its end, and what it has done so far.
namespace VmLauncher

-- What a run finds in place when it starts, other than files.
structure Surroundings where
  -- The setting for the journal's filter, if there is one.
  filterSetting : Option String := none
  clock : String := ""
  hostMark : String := ""
  -- How many processors there are to bind a thread to.
  processors : Nat := 1
  pageSize : Nat := 4096
deriving DecidableEq, Repr

structure Session where
  surroundings : Surroundings := {}
  files : Host.Files
  output : Host.Console := .unlimited
  errors : Host.Console := .unlimited
  recorder : Option Journal.Recorder := none
  -- The instance that all threads share, once there is one.
  installed : Option Instance := none
  -- Whether the host was asked for its page size.
  pageSizeKnown : Bool := false
  -- The signals of the first thread.
  signals : Signal.Station := {}
deriving Repr

namespace Session

-- The name of the thread that a run starts with.
def firstThread : String := "main"

def printErrors (s : Session) (text : String) : Session :=
  { s with errors := (s.errors.write text).2 }

-- What is said instead of a line that cannot be written.
def lostLineComplaint (e : Host.Error) : String :=
  "[tracing-subscriber] Unable to write an event to the Writer for this Subscriber! Error: " ++
    e.message ++ "\n\n"

-- Notes an event of a thread; without a recorder it is lost.
def note (thread : String) (s : Session) (e : Journal.Event) : Session :=
  match s.recorder.bind (·.line? thread e) with
  | none => s
  | some (line, recorder) =>
      let s := { s with recorder := some recorder }
      match recorder.sink with
      | .file place =>
          match s.files.append place line with
          | .ok files => { s with files }
          | .error e => s.printErrors (lostLineComplaint e)
      | .standardError => s.printErrors line

def noteAll (s : Session) (thread : String) (events : List Journal.Event) : Session :=
  events.foldl (note thread) s

-- Why a second journal is refused.
def journalRefusal : String :=
  "failed to install tracing subscriber: a global default trace dispatcher has already been set"

def recorderFor (s : Session) (c : Options.Configuration) : Journal.Recorder :=
  { filter := .ofSetting s.surroundings.filterSetting (Journal.levelFor c.verbose c.verboseBoot)
    sink :=
      match c.log with
      | some redirect => .file redirect.place
      | none => .standardError
    clock := s.surroundings.clock
    hostMark := s.surroundings.hostMark }

-- Starts the journal that a configuration asks for. There is one in a run; the answer
-- says whether this is it. What is wrong with the filter's setting is said either way.
def startJournal (s : Session) (c : Options.Configuration) : Bool × Session :=
  let s := s.printErrors (Journal.Filter.complaints s.surroundings.filterSetting)
  match s.recorder with
  | some _ => (false, s)
  | none => (true, { s with recorder := some (s.recorderFor c) })

-- Reads a command line; what it shows goes to standard output.
def readOptions (s : Session) (p : Options.Parser) (args : List String) :
    Except Options.BootError Options.Outcome × Session :=
  let (answer, scene) := p.parse args ⟨s.output, s.files, []⟩
  (answer, { s with output := scene.console, files := scene.files }.noteAll firstThread
    scene.journal)

end Session

end VmLauncher
