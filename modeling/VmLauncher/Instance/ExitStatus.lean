-- How the program ends.
namespace VmLauncher.Instance

inductive ExitStatus where
  | success
  -- A boot argument was malformed, inconsistent or missing.
  | badCommandLineArg
  -- A host call needed to make or run a thread failed.
  | syscallTrouble
  -- Anything else.
  | miscTrouble
deriving DecidableEq, Repr

def ExitStatus.code : ExitStatus → Int
  | success => 0
  | badCommandLineArg => 100
  | syscallTrouble => 121
  | miscTrouble => 122

-- The code that the host reports: it keeps one byte.
def reportedCode (code : Int) : Nat := (code % 256).toNat

end VmLauncher.Instance
