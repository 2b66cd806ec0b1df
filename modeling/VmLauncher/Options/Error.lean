import VmLauncher.Memory.Size
import VmLauncher.Number.Level
import VmLauncher.Options.Image
-- Why a command line is refused.
namespace VmLauncher.Options

def mebibyte : Nat := 1024 * 1024

inductive BootError where
  | memorySize (source : Memory.SizeError) (hint : String)
  | verboseBoot (token : String) (kind : Number.LevelError)
  | verboseGc (token : String) (kind : Number.LevelError)
  | logFile (path : String) (source : Host.Error)
  | missingClasspath (token : String)
  | heapSizeMismatch (initial maximum : Nat)
  | missingBootImage (kind : ImageKind)
  | console (source : Host.Error)
deriving DecidableEq, Repr

def BootError.message : BootError → String
  | memorySize source hint => source.message ++ "\n" ++ hint
  | verboseBoot token kind => s!"\"{token}\": " ++ kind.describe "verboseBoot"
  | verboseGc token kind =>
      s!"\"{token}\": " ++ kind.describe "GC verbose" ++
        "\n\tplease specify GC verbose level as \"-verbose:gc=<number>\" or as \"-verbose:gc\""
  | logFile path source => s!"can't open SysTraceFile \"{path}\": " ++ source.message
  | missingClasspath token => s!"\"{token}\" must be followed by a class path"
  | heapSizeMismatch initial maximum =>
      s!"maximum heap size {maximum / mebibyte} MiB is less than initial heap size " ++
        s!"{initial / mebibyte} MiB"
  | missingBootImage kind =>
      s!"please specify name of boot image {kind.description} file using " ++
        s!"\"{kind.directive}<filename>\""
  | console source => "console write failed: " ++ source.message

end VmLauncher.Options
