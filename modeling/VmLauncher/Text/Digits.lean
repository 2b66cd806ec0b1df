-- The pieces that every number on a command line is made of: leading blanks, a
-- sign and a run of digits. Each function takes the longest run and returns what
-- is left.
namespace VmLauncher.Text

-- Blank in front of a number: space, tab, line feed, form feed, carriage return.
def isBlank (c : Char) : Bool :=
  c = ' ' || c = '\t' || c = '\n' || c = '\x0c' || c = '\r'

-- The value of a digit, letters of either case standing for ten and above.
def digitValue? (radix : Nat) (c : Char) : Option Nat :=
  let value? : Option Nat :=
    if '0' ≤ c ∧ c ≤ '9' then some (c.toNat - '0'.toNat)
    else if 'a' ≤ c ∧ c ≤ 'z' then some (c.toNat - 'a'.toNat + 10)
    else if 'A' ≤ c ∧ c ≤ 'Z' then some (c.toNat - 'A'.toNat + 10)
    else none
  value?.filter (· < radix)

def isDigit (radix : Nat) (c : Char) : Bool := (digitValue? radix c).isSome

-- Whether a minus stood there, and the rest; a plus is taken too.
def takeSign : List Char → Bool × List Char
  | '-' :: cs => (true, cs)
  | '+' :: cs => (false, cs)
  | cs => (false, cs)

def takeDigits (radix : Nat) : List Char → List Nat × List Char
  | [] => ([], [])
  | c :: cs =>
      match digitValue? radix c with
      | some d => (d :: (takeDigits radix cs).1, (takeDigits radix cs).2)
      | none => ([], c :: cs)

-- The natural number that the digits spell, the first one counting most.
def digitsValue (radix : Nat) (ds : List Nat) : Nat :=
  ds.foldl (fun n d => n * radix + d) 0

end VmLauncher.Text
