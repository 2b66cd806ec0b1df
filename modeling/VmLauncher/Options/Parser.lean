import VmLauncher.Options.Configuration
import VmLauncher.Options.Directive
import VmLauncher.Options.Usage
-- Reading a command line: directives from the left until the first token that is
-- none, which begins the application's arguments.
namespace VmLauncher.Options

open Host

-- What the directives read so far have set.
structure Settings where
  initialHeap : Option Nat := none
  maximumHeap : Option Nat := none
  code : Option String := none
  data : Option String := none
  refMap : Option String := none
  verbose : UInt32 := 0
  verboseBoot : Nat := 0
  log : Option LogRedirect := none
  runtimeArgs : List String := []
deriving DecidableEq, Repr

namespace Settings

def image? (s : Settings) : ImageKind → Option String
  | .code => s.code
  | .data => s.data
  | .refMap => s.refMap

def setImage (s : Settings) (path : String) : ImageKind → Settings
  | .code => { s with code := some path }
  | .data => { s with data := some path }
  | .refMap => { s with refMap := some path }

def setHeap (s : Settings) (size : Nat) : HeapBound → Settings
  | .initial => { s with initialHeap := some size }
  | .maximum => { s with maximumHeap := some size }

def forward (s : Settings) (tokens : List String) : Settings :=
  { s with runtimeArgs := s.runtimeArgs ++ tokens }

end Settings

-- How a command line that is not refused ends: in a launch, or in an exit with
-- status zero once a text was shown.
inductive Outcome where
  | launch (configuration : Configuration)
  | exit
deriving DecidableEq, Repr

-- What a directive leads to.
inductive Next where
  | proceed (settings : Settings)
  | exit
deriving DecidableEq, Repr

structure Parser where
  program : String
  pageSize : Nat
  defaults : HeapDefaults := {}
deriving DecidableEq, Repr

-- The level in what follows `-verbose:gc`: one if nothing does, otherwise the number
-- behind the first character, which separates it. Only a character of one byte
-- separates; behind any other there is nothing to read.
def gcLevel (rest : String) : Except Number.LevelError Nat :=
  match rest.toList with
  | [] => .ok 1
  | c :: cs => Number.readLevel (if c.utf8Size = 1 then String.ofList cs else "")

def gcToken (level : Nat) : String := s!"-X:gc:verbose={level}"

-- Shows lines; a console that does not take all of them is an error.
def display (lines : List String) (scene : Scene) : Except BootError Unit × Scene :=
  match scene.sayLines lines with
  | (.ok (), scene) => (.ok (), scene)
  | (.error e, scene) => (.error (.console e), scene)

-- Shows lines and then goes on with `next`.
def displayThen (lines : List String) (next : Next) (scene : Scene) :
    Except BootError Next × Scene :=
  match display lines scene with
  | (.ok (), scene) => (.ok next, scene)
  | (.error e, scene) => (.error e, scene)

namespace Parser

def sizeSpec (p : Parser) (bound : HeapBound) : Memory.SizeSpec :=
  ⟨bound.sizeName, bound.flag, p.pageSize, p.pageSize⟩

def redirectionNote (p : Parser) (path : String) : String :=
  s!"{p.program}: redirecting sysWrites to \"{path}\""

def setLogFile (p : Parser) (path : String) (s : Settings) (scene : Scene) :
    Except BootError Next × Scene :=
  match scene.files.openAppend path with
  | .error e => (.error (.logFile path e), scene)
  | .ok (place, files) =>
      displayThen [p.redirectionNote path] (.proceed { s with log := some ⟨path, place⟩ })
        { scene with files }

def setHeapSize (p : Parser) (bound : HeapBound) (token size : String) (s : Settings)
    (scene : Scene) : Except BootError Next × Scene :=
  match (p.sizeSpec bound).parse token size p.program scene with
  | (.ok bytes, scene) => (.ok (.proceed (s.setHeap bytes bound)), scene)
  | (.error (.console e), scene) => (.error (.console e), scene)
  | (.error e, scene) => (.error (.memorySize e (p.sizeSpec bound).hint), scene)

-- Carries out one directive; `token` is the token that it was read from.
def obey (p : Parser) (token : String) (d : Directive) (s : Settings) (scene : Scene) :
    Except BootError Next × Scene :=
  match d with
  | .help => displayThen (Usage.standardLines p.program) .exit scene
  | .nonstandardHelp => displayThen (Usage.nonstandardLines p.program) .exit scene
  | .verbose => (.ok (.proceed { s with verbose := s.verbose + 1 }), scene)
  | .compilerChoice => (.ok (.proceed s), scene)
  | .version => displayThen [Usage.shortVersionLine] .exit scene
  | .fullVersion => displayThen (Usage.fullVersionLines p.defaults) .exit scene
  | .showVersion => displayThen [Usage.shortVersionLine] (.proceed s) scene
  | .showFullVersion => displayThen (Usage.fullVersionLines p.defaults) (.proceed s) scene
  | .verboseBoot value =>
      match Number.readLevel value with
      | .ok level => (.ok (.proceed { s with verboseBoot := level }), scene)
      | .error kind => (.error (.verboseBoot token kind), scene)
  | .verboseGc rest =>
      match gcLevel rest with
      | .ok level => (.ok (.proceed (s.forward [gcToken level])), scene)
      | .error kind => (.error (.verboseGc token kind), scene)
  | .heapSize bound size => p.setHeapSize bound token size s scene
  | .logFile path => p.setLogFile path s scene
  | .image kind path => (.ok (.proceed (s.setImage path kind)), scene)
  | .forwarded => (.ok (.proceed (s.forward [token])), scene)

-- The two heap sizes. Where only one is given, the default of the other moves to
-- meet it.
def heapSizes (p : Parser) (s : Settings) : Nat × Nat :=
  match s.initialHeap, s.maximumHeap with
  | none, none => (p.defaults.initial, p.defaults.maximum)
  | none, some maximum => (min p.defaults.initial maximum, maximum)
  | some initial, none => (initial, max initial p.defaults.maximum)
  | some initial, some maximum => (initial, maximum)

def requireImage (s : Settings) (kind : ImageKind) : Except BootError String :=
  match s.image? kind with
  | some path => .ok path
  | none => .error (.missingBootImage kind)

-- The configuration that the settings amount to. Heap sizes are compared before
-- images are asked for.
def configure (p : Parser) (s : Settings) (application : List String) :
    Except BootError Configuration := do
  let (initial, maximum) := p.heapSizes s
  if maximum < initial then .error (.heapSizeMismatch initial maximum)
  let code ← requireImage s .code
  let data ← requireImage s .data
  let refMap ← requireImage s .refMap
  return ⟨initial, maximum, code, data, refMap, s.verbose, s.verboseBoot, s.log,
    s.runtimeArgs, application⟩

def configurationEvent (c : Configuration) : Journal.Event :=
  ⟨.debug, .boot, "boot configuration",
    [("initial", .number c.initialHeap), ("maximum", .number c.maximumHeap),
     ("code", .text c.code), ("data", .text c.data), ("rmap", .text c.refMap),
     ("verbose", .number c.verbose.toNat)]⟩

def unknownEvent (token : String) : Journal.Event :=
  ⟨.debug, .boot, "unrecognized directive; treating the rest as application arguments",
    [("token", .text token)]⟩

def finish (p : Parser) (s : Settings) (application : List String) (scene : Scene) :
    Except BootError Outcome × Scene :=
  match p.configure s application with
  | .error e => (.error e, scene)
  | .ok c => (.ok (.launch c), scene.note (configurationEvent c))

-- Reads the tokens that are left. A class path is taken as it is, even if it looks
-- like a directive.
def readFrom (p : Parser) : List String → Settings → Scene → Except BootError Outcome × Scene
  | [], s, scene => p.finish s [] scene
  | token :: rest, s, scene =>
      if !startsWithDash token then p.finish s (token :: rest) scene
      else if takesClasspath token then
        match rest with
        | [] => (.error (.missingClasspath token), scene)
        | path :: rest => p.readFrom rest (s.forward [token, path]) scene
      else
        match Directive.ofToken? token with
        | none => p.finish s (token :: rest) (scene.note (unknownEvent token))
        | some d =>
            match p.obey token d s scene with
            | (.ok (.proceed s), scene) => p.readFrom rest s scene
            | (.ok .exit, scene) => (.ok .exit, scene)
            | (.error e, scene) => (.error e, scene)

-- Reads a command line, without the name of the program.
def parse (p : Parser) (args : List String) (scene : Scene) : Except BootError Outcome × Scene :=
  p.readFrom args {} scene

end Parser

end VmLauncher.Options
