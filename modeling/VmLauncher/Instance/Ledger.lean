-- Counts of what threads have taken and given back, in words of the machine.
namespace VmLauncher.Instance

structure Counter where
  allocated : UInt64 := 0
  released : UInt64 := 0
deriving DecidableEq, Repr

namespace Counter

def allocate (c : Counter) : Counter := { c with allocated := c.allocated + 1 }

def release (c : Counter) : Counter := { c with released := c.released + 1 }

-- What is held now. More releases than allocations count as nothing held.
def live (c : Counter) : UInt64 :=
  if c.released ≤ c.allocated then c.allocated - c.released else 0

end Counter

inductive Resource where
  | signalStack
  | terminationContext
  | startArguments
deriving DecidableEq, Repr

structure Ledger where
  signalStacks : Counter := {}
  terminationContexts : Counter := {}
  startArguments : Counter := {}
deriving DecidableEq, Repr

namespace Ledger

def counter (l : Ledger) : Resource → Counter
  | .signalStack => l.signalStacks
  | .terminationContext => l.terminationContexts
  | .startArguments => l.startArguments

def update (l : Ledger) (r : Resource) (f : Counter → Counter) : Ledger :=
  match r with
  | .signalStack => { l with signalStacks := f l.signalStacks }
  | .terminationContext => { l with terminationContexts := f l.terminationContexts }
  | .startArguments => { l with startArguments := f l.startArguments }

def allocate (l : Ledger) (r : Resource) : Ledger := l.update r Counter.allocate

def release (l : Ledger) (r : Resource) : Ledger := l.update r Counter.release

-- Whether nothing is held.
def isBalanced (l : Ledger) : Bool :=
  l.signalStacks.live == 0 && l.terminationContexts.live == 0 && l.startArguments.live == 0

end Ledger

end VmLauncher.Instance
