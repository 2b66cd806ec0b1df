import VmLauncher.Text.Digits
import VmLauncher.Text.WhiteSpace
-- The flags that a regular expression is read under, and what stands behind a
-- backslash in it.
namespace VmLauncher.Text.Pattern

-- The flags in force: whether the text is one of characters or of bytes, whether case
-- is ignored, and whether the pattern is laid out with blanks and comments.
structure Mode where
  unicode : Bool := true
  ignoreCase : Bool := false
  laidOut : Bool := false
deriving DecidableEq, Repr

namespace Mode

-- The mode that a run of flags sets; a dash switches off those behind it.
def set (mode : Mode) (flags : List Char) : Mode :=
  let on := flags.takeWhile (· ≠ '-')
  let off := flags.drop on.length
  { unicode := !off.contains 'u' && (on.contains 'u' || mode.unicode)
    ignoreCase := !off.contains 'i' && (on.contains 'i' || mode.ignoreCase)
    laidOut := !off.contains 'x' && (on.contains 'x' || mode.laidOut) }

-- Whether a character can be matched: case cannot be ignored among all characters.
def canMatch (mode : Mode) : Bool := !(mode.unicode && mode.ignoreCase)

-- What follows the blanks and comments in front. A comment begins with a number sign
-- and lasts to the end of its line.
def dropLayout (inComment : Bool) : List Char → List Char
  | [] => []
  | c :: cs =>
      if inComment then dropLayout (c ≠ '\n') cs
      else if isWhiteSpace c then dropLayout false cs
      else if c = '#' then dropLayout true cs
      else c :: cs

def skip (mode : Mode) (cs : List Char) : List Char :=
  if mode.laidOut then dropLayout false cs else cs

-- The next character, looked at without going there: blanks are passed over and one
-- number sign, but not what is in a comment.
def glance? (mode : Mode) (cs : List Char) : Option Char :=
  if mode.laidOut then
    match cs.dropWhile isWhiteSpace with
    | '#' :: cs => (cs.dropWhile isWhiteSpace).head?
    | cs => cs.head?
  else cs.head?

end Mode

-- What an escape stands for.
inductive Escape where
  | literal (code : Nat)
  | byteClass
  | edge
  | wordEdge
deriving DecidableEq, Repr

def isMeta (c : Char) : Bool := "\\.+*?()|[]\x7b\x7d^$#&-~".toList.contains c

-- Other characters than letters and numbers that may stand behind a backslash for
-- themselves.
def standsForItself (c : Char) : Bool :=
  isMeta c || (c.toNat < 128 && !c.isAlphanum && c ≠ '<' && c ≠ '>')

def isScalar (n : Nat) : Bool := n < 0xd800 || (0xdfff < n && n < 0x110000)

-- At most so many hexadecimal digits.
def takeHexDigits (mode : Mode) : Nat → List Char → List Nat × List Char
  | 0, cs => ([], cs)
  | count + 1, cs =>
      match mode.skip cs with
      | [] => ([], [])
      | c :: rest =>
          match digitValue? 16 c with
          | none => ([], c :: rest)
          | some d =>
              let (ds, rest) := takeHexDigits mode count rest
              (d :: ds, rest)

-- So many hexadecimal digits, as a code point.
def takeHex (mode : Mode) (count : Nat) (cs : List Char) : Option (Nat × List Char) :=
  let (ds, rest) := takeHexDigits mode count cs
  let code := digitsValue 16 ds
  if ds.length = count && isScalar code then some (code, rest) else none

-- The escape behind a backslash. The classes of digits, blanks and words are known
-- for bytes, where the opposite of one would split characters.
def takeEscape (mode : Mode) : List Char → Option (Escape × List Char)
  | [] => none
  | c :: cs =>
      let literal (code : Nat) := some (Escape.literal code, cs)
      let hex (count : Nat) :=
        (takeHex mode count cs).map fun (code, rest) => (.literal code, rest)
      if standsForItself c then literal c.toNat
      else
        match c with
        | 'a' => literal 7
        | 't' => literal 9
        | 'n' => literal 10
        | 'v' => literal 11
        | 'f' => literal 12
        | 'r' => literal 13
        | 'x' => (hex 2).filter fun (e, _) =>
            mode.unicode || match e with
              | .literal code => code < 128
              | _ => true
        | 'u' => hex 4
        | 'U' => hex 8
        | 'd' | 's' | 'w' => if mode.unicode then none else some (.byteClass, cs)
        | 'A' | 'z' => some (.edge, cs)
        | 'b' | 'B' | '<' | '>' => some (if mode.unicode then .wordEdge else .edge, cs)
        | _ => none

end VmLauncher.Text.Pattern
