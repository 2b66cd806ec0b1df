import VmLauncher.Binary64
-- Units in which a memory size can be written.
namespace VmLauncher.Memory

inductive SizeUnit where
  | bytes
  | pages
  | kilobytes
  | megabytes
  | gigabytes
deriving DecidableEq, Repr

namespace SizeUnit

-- The unit that a text names. Letters may be of either case; the word for pages may not.
def ofText? (text : String) : Option SizeUnit :=
  if text = "" then some bytes
  else if text = "pages" then some pages
  else if text = "k" ∨ text = "K" then some kilobytes
  else if text = "m" ∨ text = "M" then some megabytes
  else if text = "g" ∨ text = "G" then some gigabytes
  else none

-- How many bytes one of the unit has.
def byteCount (pageSize : Nat) : SizeUnit → Nat
  | bytes => 1
  | pages => pageSize
  | kilobytes => 1024
  | megabytes => 1024 * 1024
  | gigabytes => 1024 * 1024 * 1024

def factor (pageSize : Nat) (unit : SizeUnit) : Binary64 := .ofNat (unit.byteCount pageSize)

end SizeUnit

end VmLauncher.Memory
