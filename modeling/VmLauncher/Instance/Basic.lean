import VmLauncher.Instance.ExitStatus
import VmLauncher.Instance.Ledger
import VmLauncher.Journal.Event
import VmLauncher.Monitor.Substrate
import VmLauncher.Options.Configuration
-- The state that one running virtual machine keeps for all of its threads.
namespace VmLauncher

structure Instance where
  substrate : Monitor.Substrate
  verbose : UInt32
  ledger : Instance.Ledger := {}
  nextSerial : UInt64 := 1
  arguments : Option Options.BootArguments := none
deriving DecidableEq, Repr

namespace Instance

def monitorEvent (substrate : Monitor.Substrate) : Journal.Event :=
  ⟨.trace, .monitor, "monitor create", [("substrate", .text substrate.name)]⟩

-- The lock that an exit takes is made with the instance.
def creationEvent (i : Instance) : Journal.Event := monitorEvent i.substrate

-- Publishes the boot arguments. Only the first time counts; the answer says whether
-- this was it.
def publish (i : Instance) (arguments : Options.BootArguments) : Bool × Instance :=
  match i.arguments with
  | none => (true, { i with arguments := some arguments })
  | some _ => (false, i)

def publicationEvent (arguments : Options.BootArguments) : Journal.Event :=
  ⟨.trace, .exit, "boot arguments published", [("count", .number arguments.residual.length)]⟩

-- The next serial, which is not given out again before all others were.
def takeSerial (i : Instance) : UInt64 × Instance :=
  (i.nextSerial, { i with nextSerial := i.nextSerial + 1 })

def allocate (i : Instance) (r : Resource) : Instance := { i with ledger := i.ledger.allocate r }

def release (i : Instance) (r : Resource) : Instance := { i with ledger := i.ledger.release r }

-- What an exit of the instance notes: a talkative one says so where it fails.
def exitEvents (i : Instance) (code : Int) : List Journal.Event :=
  ⟨.trace, .exit, "process exit", [("code", .number code)]⟩ ::
    if 0 < i.verbose ∧ code ≠ ExitStatus.success.code then
      [⟨.error, .exit, "exiting", [("code", .number code)]⟩]
    else []

def failureEvent (status : ExitStatus) : Journal.Event :=
  ⟨.error, .exit, "unrecoverable failure", [("code", .number status.code)]⟩

end Instance

end VmLauncher
