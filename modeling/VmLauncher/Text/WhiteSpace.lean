import VmLauncher.Text.Runs
-- White space in the sense of the Unicode property of that name.
namespace VmLauncher.Text

-- First and last code point of each run of white space, in increasing order.
def whiteSpaceRuns : Runs :=
  [(0x09, 0x0d), (0x20, 0x20), (0x85, 0x85), (0xa0, 0xa0), (0x1680, 0x1680),
   (0x2000, 0x200a), (0x2028, 0x2029), (0x202f, 0x202f), (0x205f, 0x205f),
   (0x3000, 0x3000)]

def isWhiteSpace (c : Char) : Bool := whiteSpaceRuns.holds c

end VmLauncher.Text
