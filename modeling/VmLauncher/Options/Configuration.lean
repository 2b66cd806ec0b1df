import VmLauncher.Host.Files
import VmLauncher.Options.Image
-- What a command line amounts to once it is accepted.
namespace VmLauncher.Options

-- Where the journal goes in place of standard error: the path as given, and the
-- file that it named when it was opened.
structure LogRedirect where
  path : String
  place : Host.Location
deriving DecidableEq, Repr

-- The part of a configuration that the runtime reads back after boot. The rest are
-- the forwarded directives followed by the application's own arguments.
structure BootArguments where
  initial : Nat
  maximum : Nat
  residual : List String
deriving DecidableEq, Repr

structure Configuration where
  initialHeap : Nat
  maximumHeap : Nat
  code : String
  data : String
  refMap : String
  verbose : UInt32
  verboseBoot : Nat
  log : Option LogRedirect
  runtimeArgs : List String
  applicationArgs : List String
deriving DecidableEq, Repr

namespace Configuration

def image (c : Configuration) : ImageKind → String
  | .code => c.code
  | .data => c.data
  | .refMap => c.refMap

-- All that is handed on to the runtime.
def residualArgs (c : Configuration) : List String := c.runtimeArgs ++ c.applicationArgs

def bootArguments (c : Configuration) : BootArguments :=
  ⟨c.initialHeap, c.maximumHeap, c.residualArgs⟩

end Configuration

end VmLauncher.Options
