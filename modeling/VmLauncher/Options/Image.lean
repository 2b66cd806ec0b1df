-- The three files that a boot image consists of.
namespace VmLauncher.Options

inductive ImageKind where
  | code
  | data
  | refMap
deriving DecidableEq, Repr

namespace ImageKind

-- In the order in which they are asked for.
def all : List ImageKind := [code, data, refMap]

def directive : ImageKind → String
  | code => "-X:ic="
  | data => "-X:id="
  | refMap => "-X:ir="

def description : ImageKind → String
  | code => "code"
  | data => "data"
  | refMap => "ref map"

end ImageKind

end VmLauncher.Options
