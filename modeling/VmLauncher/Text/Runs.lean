-- Sets of characters as runs of code points.
namespace VmLauncher.Text

-- The first and the last code point of each run.
abbrev Runs := List (Nat × Nat)

def Runs.holds (runs : Runs) (c : Char) : Bool :=
  runs.any fun (first, last) => first ≤ c.toNat ∧ c.toNat ≤ last

end VmLauncher.Text
