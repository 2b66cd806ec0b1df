import VmLauncher.Options.Error
-- The texts that informational directives show.
namespace VmLauncher.Options

-- Heap sizes used where the command line gives none.
structure HeapDefaults where
  initial : Nat := 50 * mebibyte
  maximum : Nat := 100 * mebibyte
deriving DecidableEq, Repr

namespace Usage

def programName : String := "bootvm"

def version : String := "0.1.0"

def platform : String := "x86_64-linux"

def lines (ls : List String) : String := String.join (ls.map (· ++ "\n"))

def standardLines (program : String) : List String :=
  [s!"Usage: {program} [-options] class [args...]",
   "          (to execute a class)",
   s!"   or  {program} [-options] -jar jarfile [args...]",
   "          (to execute a jar file)",
   "",
   "where options include:",
   "    -cp -classpath <directories and zip/jar files separated by :>",
   "              set search path for application classes and resources",
   "    -D<name>=<value>",
   "              set a system property",
   "    -verbose[:class|:gc|:jni]",
   "              enable verbose output",
   "    -version  print version",
   "    -showversion",
   "              print version and continue",
   "    -fullversion",
   "              like version but with more information",
   "    -? -help  print this message",
   "    -X        print help on non-standard options",
   "    -javaagent:<jarpath>[=<options>]",
   "              load an instrumentation agent",
   ""]

def standard (program : String) : String := lines (standardLines program)

def nonstandardOptions : List String :=
  ["  -X                         Print usage on nonstandard options",
   "  -X:verbose                 Print out additional lowlevel information",
   "  -X:verboseBoot=<number>    Print out messages while booting VM",
   "  -Xms<number><unit>         Initial size of heap",
   "  -Xmx<number><unit>         Maximum size of heap",
   "  -X:sysLogfile=<filename>   Write standard error message to <filename>",
   "  -X:ic=<filename>           Read boot image code from <filename>",
   "  -X:id=<filename>           Read boot image data from <filename>",
   "  -X:ir=<filename>           Read boot image ref map from <filename>",
   "  -X:vm:<option>             Pass <option> to virtual machine",
   "        :help                Print usage choices for -X:vm",
   "  -X:gc:<option>             Pass <option> on to GC subsystem",
   "        :help                Print usage choices for -X:gc",
   "  -X:aos:<option>            Pass <option> on to adaptive optimization system",
   "        :help                Print usage choices for -X:aos",
   "  -X:irc:<option>            Pass <option> on to the initial runtime compiler",
   "        :help                Print usage choices for -X:irc",
   "  -X:recomp:<option>         Pass <option> on to the recompilation compiler(s)",
   "        :help                Print usage choices for -X:recomp",
   "  -X:base:<option>           Pass <option> on to the baseline compiler",
   "        :help                Print usage choices for -X:base",
   "  -X:opt:<option>            Pass <option> on to the optimizing compiler",
   "        :help                Print usage choices for -X:opt",
   "  -X:vmClasses=<path>        Load the runtime's own classes from <path>,",
   "                             a list like one would give to -classpath.",
   "  -Xbootclasspath/p:<cp>     (p)repend bootclasspath with specified classpath",
   "  -Xbootclasspath/a:<cp>     (a)ppend specified classpath to bootclasspath",
   "  -X:availableProcessors=<n> desired level of application parallelism"]

def nonstandardLines (program : String) : List String :=
  [s!"Usage: {program} [options] class [args...]",
   "          (to execute a class)",
   "where options include"] ++ nonstandardOptions

def nonstandard (program : String) : String := lines (nonstandardLines program)

def shortVersionLine : String := s!"{programName} {version}"

def shortVersion : String := lines [shortVersionLine]

def fullVersionLines (defaults : HeapDefaults) : List String :=
  [shortVersionLine,
   s!"\thost config: {platform}",
   s!"\ttarget config: {platform}",
   s!"\theap default initial size: {defaults.initial / mebibyte} MiBytes",
   s!"\theap default maximum size: {defaults.maximum / mebibyte} MiBytes"]

def fullVersion (defaults : HeapDefaults) : String := lines (fullVersionLines defaults)

end Usage

end VmLauncher.Options
