import VmLauncher.Options.Image
-- The directives of a command line: which token is which.
namespace VmLauncher.Options

-- Tokens handed to the runtime as they are, by how they start.
def forwardedStarts : List String :=
  ["-D", "-X:vm", "-X:gc", "-X:aos", "-X:irc", "-X:recomp", "-X:base", "-X:opt",
   "-javaagent:", "-X:vmClasses=", "-Xbootclasspath/p:", "-Xbootclasspath/a:",
   "-X:availableProcessors="]

-- Tokens handed to the runtime as they are, whole.
def forwardedTokens : List String := ["-verbose", "-verbose:class", "-verbose:jni"]

-- The rest of a text behind a given start.
def after? (start : List Char) (cs : List Char) : Option (List Char) :=
  match start, cs with
  | [], cs => some cs
  | _ :: _, [] => none
  | s :: start, c :: cs => if s = c then after? start cs else none

def behind? (start token : String) : Option String :=
  (after? start.toList token.toList).map String.ofList

def startsWith (start token : String) : Bool := (after? start.toList token.toList).isSome

inductive HeapBound where
  | initial
  | maximum
deriving DecidableEq, Repr

namespace HeapBound

-- The letters behind `-X`, which also name the size in messages.
def flag : HeapBound → String
  | initial => "ms"
  | maximum => "mx"

def sizeName : HeapBound → String
  | initial => "initial heap size"
  | maximum => "maximum heap size"

def directive (b : HeapBound) : String := "-X" ++ b.flag

end HeapBound

-- A directive of one token, with the text behind its name where it has one.
inductive Directive where
  | help
  | nonstandardHelp
  | verbose
  | compilerChoice
  | version
  | fullVersion
  | showVersion
  | showFullVersion
  | verboseBoot (value : String)
  | verboseGc (rest : String)
  | heapSize (bound : HeapBound) (size : String)
  | logFile (path : String)
  | image (kind : ImageKind) (path : String)
  | forwarded
deriving DecidableEq, Repr

namespace Directive

-- The directives that are a whole token.
def ofWord? (token : String) : Option Directive :=
  if token = "-help" ∨ token = "-?" then some help
  else if token = "-X" then some nonstandardHelp
  else if token = "-X:verbose" then some verbose
  else if token = "-server" ∨ token = "-client" then some compilerChoice
  else if token = "-version" then some version
  else if token = "-fullversion" then some fullVersion
  else if token = "-showversion" then some showVersion
  else if token = "-showfullversion" then some showFullVersion
  else none

-- The directives that are the start of a token, in the order in which they are tried.
def openers : List (String × (String → Directive)) :=
  [("-X:verboseBoot=", verboseBoot),
   ("-verbose:gc", verboseGc),
   (HeapBound.directive .initial, heapSize .initial),
   (HeapBound.directive .maximum, heapSize .maximum),
   ("-X:sysLogfile=", logFile)] ++
  ImageKind.all.map fun kind => (kind.directive, image kind)

def ofOpener? (token : String) : Option Directive :=
  openers.findSome? fun (start, make) => (behind? start token).map make

def isForwarded (token : String) : Bool :=
  forwardedTokens.contains token || forwardedStarts.any (startsWith · token)

-- The directive that a token is, if it is any. Whole tokens come first, then those
-- read by their start, then those handed on.
def ofToken? (token : String) : Option Directive :=
  match ofWord? token with
  | some d => some d
  | none =>
      match ofOpener? token with
      | some d => some d
      | none => if isForwarded token then some forwarded else none

end Directive

-- The two tokens that take the next one, whatever it is, as a class path.
def takesClasspath (token : String) : Bool := token = "-cp" || token = "-classpath"

def startsWithDash (token : String) : Bool := startsWith "-" token

end VmLauncher.Options
