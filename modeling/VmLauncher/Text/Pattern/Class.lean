import VmLauncher.Text.Pattern.Escape
-- Bracketed classes of characters in a regular expression: where they end, and how
-- deep they nest.
namespace VmLauncher.Text.Pattern

-- How deep a row of elements nests, from what each of them does. Several elements
-- make a level of their own.
def depthOfRow : List Nat → Nat
  | [] => 0
  | [depth] => depth
  | depths => depths.foldr max 0 + 1

-- A class whose bracket is still open, by how deep its parts nest: the members since
-- the last operator, and what is in front of that.
structure OpenClass where
  members : List Nat := []
  left : Option Nat := none
deriving DecidableEq, Repr

namespace OpenClass

def depth (k : OpenClass) : Nat :=
  match k.left with
  | none => depthOfRow k.members
  | some left => max left (depthOfRow k.members) + 1

def add (k : OpenClass) (depth : Nat) : OpenClass := { k with members := depth :: k.members }

-- What is there becomes the left side of an operator.
def operator (k : OpenClass) : OpenClass := { left := some k.depth }

end OpenClass

-- A member of a class: the code point of a literal, or none for a class.
def takeMember (mode : Mode) : List Char → Option (Option Nat × List Char)
  | [] => none
  | '\\' :: cs =>
      match takeEscape mode cs with
      | some (.literal code, rest) =>
          if mode.unicode || code < 128 then some (some code, rest) else none
      | some (.byteClass, rest) => some (none, rest)
      | _ => none
  | c :: cs => if mode.unicode || c.toNat < 128 then some (some c.toNat, cs) else none

-- A member, or a range between two literals. A dash in front of a closing bracket or
-- of another dash makes no range.
def takeRange (mode : Mode) (cs : List Char) : Option (List Char) :=
  (takeMember mode cs).bind fun (first, rest) =>
    match mode.skip rest with
    | [] => none
    | '-' :: rest =>
        if mode.glance? rest = some ']' || mode.glance? rest = some '-' then some ('-' :: rest)
        else
          (takeMember mode (mode.skip rest)).bind fun (last, rest) =>
            match first, last with
            | some a, some b => if a ≤ b then some rest else none
            | _, _ => none
    | rest => some rest

def classNames : List String :=
  ["alnum", "alpha", "ascii", "blank", "cntrl", "digit", "graph", "lower", "print", "punct",
   "space", "upper", "word", "xdigit"]

-- A class by its name, such as `[:alpha:]`, from behind its bracket: whether it is
-- negated, and what follows.
def takeNamedClass : List Char → Option (Bool × List Char)
  | ':' :: cs =>
      let (negated, body) : Bool × List Char :=
        match cs with
        | '^' :: cs => (true, cs)
        | cs => (false, cs)
      match body.dropWhile (· ≠ ':') with
      | ':' :: ']' :: rest =>
          if classNames.contains (String.ofList (body.takeWhile (· ≠ ':'))) then
            some (negated, rest)
          else none
      | _ => none
  | _ => none

-- The dashes in front of the members of a class, as members, and what follows them.
def takeDashes (mode : Mode) (k : OpenClass) : Nat → List Char → OpenClass × List Char
  | 0, cs => (k, cs)
  | fuel + 1, cs =>
      match mode.skip cs with
      | '-' :: rest => takeDashes mode (k.add 0) fuel rest
      | cs => (k, cs)

-- The beginning of a class, behind its bracket: a sign that negates it, dashes, and a
-- closing bracket that stands for itself where nothing is before it. The opposite of a
-- class of bytes would split characters.
def enterClass (mode : Mode) (cs : List Char) : Option (OpenClass × List Char) :=
  let (negated, body) : Bool × List Char :=
    match mode.skip cs with
    | '^' :: cs => (true, mode.skip cs)
    | cs => (false, cs)
  if negated && !mode.unicode then none
  else
    match body with
    | '-' :: _ =>
        if mode.canMatch then some (takeDashes mode {} body.length body) else none
    | ']' :: rest => if mode.canMatch then some (OpenClass.add {} 0, rest) else none
    | rest => some ({}, rest)

-- The rest of a class, with the classes around it: how deep the outermost nests, and
-- what follows it.
def takeClass (mode : Mode) :
    Nat → OpenClass → List OpenClass → List Char → Option (Nat × List Char)
  | 0, _, _, _ => none
  | fuel + 1, k, around, cs =>
      match mode.skip cs, around with
      | [], _ => none
      | ']' :: rest, [] => some (k.depth + 1, rest)
      | ']' :: rest, outer :: around =>
          takeClass mode fuel (outer.add (k.depth + 1)) around rest
      | '[' :: rest, _ =>
          match takeNamedClass rest with
          | some (negated, rest) =>
              if mode.canMatch && (mode.unicode || !negated) then
                takeClass mode fuel (k.add 0) around rest
              else none
          | none =>
              (enterClass mode rest).bind fun (inner, rest) =>
                takeClass mode fuel inner (k :: around) rest
      | '&' :: '&' :: rest, _ => takeClass mode fuel k.operator around rest
      | '-' :: '-' :: rest, _ => takeClass mode fuel k.operator around rest
      | '~' :: '~' :: rest, _ => takeClass mode fuel k.operator around rest
      | cs, _ =>
          if mode.canMatch then
            (takeRange mode cs).bind (takeClass mode fuel (k.add 0) around)
          else none

end VmLauncher.Text.Pattern
