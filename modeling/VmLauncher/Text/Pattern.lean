import VmLauncher.Text.Alphanumeric
import VmLauncher.Text.Pattern.Class
-- Regular expressions, as far as which texts are any. There are no tables of
-- characters behind them: what asks for one, such as a class of letters or matching
-- without case, is refused.
namespace VmLauncher.Text.Pattern

inductive Flaw where
  | malformed
  -- Well formed, but with a boundary of words, which no automaton is built for.
  | wordBoundary
deriving DecidableEq, Repr

def flagLetters : List Char := "imsUuRx".toList

def hasRepeats : List Char → Bool
  | [] => false
  | c :: cs => cs.contains c || hasRepeats cs

def areFlags (flags : List Char) : Bool :=
  flags.all (fun c => c = '-' || flagLetters.contains c) && !hasRepeats flags &&
    flags.getLast? ≠ some '-'

-- A name for a group, up to the bracket that closes it.
def isGroupName (name : List Char) : Bool :=
  match name with
  | [] => false
  | c :: cs =>
      (c = '_' || isAlphabetic c) &&
        cs.all fun c => c = '_' || c = '.' || c = '[' || c = ']' || isAlphanumeric c

-- An element, by how deep it nests. Flags are an element too, but not one to repeat.
structure Element where
  depth : Nat := 0
  canRepeat : Bool := true
deriving DecidableEq, Repr

-- A group, or the whole pattern, as far as it is read: the mode, the elements of its
-- last branch, the last in front, and how deep the branches before that nest.
structure Group where
  mode : Mode := {}
  row : List Element := []
  branches : List Nat := []
deriving DecidableEq, Repr

namespace Group

def add (g : Group) (e : Element) : Group := { g with row := e :: g.row }

def rowDepth (g : Group) : Nat := depthOfRow (g.row.map (·.depth))

def depth (g : Group) : Nat := depthOfRow (g.rowDepth :: g.branches)

def endBranch (g : Group) : Group := { g with row := [], branches := g.rowDepth :: g.branches }

-- The last element becomes a repetition of it.
def repeatLast? (g : Group) : Option Group :=
  match g.row with
  | [] => none
  | e :: row => if e.canRepeat then some { g with row := ⟨e.depth + 1, true⟩ :: row } else none

end Group

-- How far a text is read: the innermost group, those around it, the names in use, and
-- whether words had a boundary.
structure State where
  group : Group := {}
  around : List Group := []
  names : List (List Char) := []
  wordEdge : Bool := false
deriving DecidableEq, Repr

namespace State

def mode (s : State) : Mode := s.group.mode

def add (s : State) (depth : Nat) : State := { s with group := s.group.add ⟨depth, true⟩ }

-- One more character to match.
def addLiteral? (s : State) : Option State := if s.mode.canMatch then some (s.add 0) else none

def enter (s : State) (mode : Mode) : State :=
  { s with group := { mode }, around := s.group :: s.around }

def enterNamed (s : State) (cs : List Char) : Option (State × List Char) :=
  let name := cs.takeWhile (· ≠ '>')
  match cs.drop name.length with
  | [] => none
  | _ :: rest =>
      if isGroupName name && !s.names.contains name then
        some ({ s.enter s.mode with names := name :: s.names }, rest)
      else none

-- Flags for the rest of the group.
def setFlags (s : State) (flags : List Char) : State :=
  { s with group := { s.group with mode := s.mode.set flags }.add ⟨0, false⟩ }

-- What stands behind an opening parenthesis: a name, flags for the group or for the
-- rest of the group around, or nothing special. There is no looking around.
def enterGroup (s : State) (cs : List Char) : Option (State × List Char) :=
  match s.mode.skip cs with
  | '?' :: 'P' :: '<' :: cs => s.enterNamed cs
  | '?' :: '<' :: '=' :: _ => none
  | '?' :: '<' :: '!' :: _ => none
  | '?' :: '<' :: cs => s.enterNamed cs
  | '?' :: cs =>
      let flags := cs.takeWhile fun c => c ≠ ':' && c ≠ ')'
      if !areFlags flags then none
      else
        match cs.drop flags.length with
        | ':' :: rest => some (s.enter (s.mode.set flags), rest)
        | ')' :: rest => if flags.isEmpty then none else some (s.setFlags flags, rest)
        | _ => none
  | cs => some (s.enter s.mode, cs)

def leaveGroup? (s : State) : Option State :=
  match s.around with
  | [] => none
  | outer :: around => some ({ s with group := outer, around }.add (s.group.depth + 1))

def escape (s : State) (cs : List Char) : Option (State × List Char) :=
  (takeEscape s.mode cs).bind fun (e, rest) =>
    match e with
    | .literal _ => s.addLiteral?.map (·, rest)
    | .byteClass => some (s.add 0, rest)
    | .edge => some (s.add 0, rest)
    | .wordEdge => some ({ s.add 0 with wordEdge := true }, rest)

def bracketed (s : State) (cs : List Char) : Option (State × List Char) :=
  (enterClass s.mode cs).bind fun (k, rest) =>
    (takeClass s.mode (cs.length + 1) k [] rest).map fun (depth, rest) => (s.add depth, rest)

def repeatItem (s : State) (cs : List Char) : Option (State × List Char) :=
  s.group.repeatLast?.map fun group =>
    match cs with
    | '?' :: rest => ({ s with group }, rest)
    | rest => ({ s with group }, rest)

-- One element of a pattern. A counted repetition is never complete, because its
-- closing brace ends the text before.
def step (s : State) (c : Char) (cs : List Char) : Option (State × List Char) :=
  match c with
  | '(' => s.enterGroup cs
  | ')' => s.leaveGroup?.map (·, cs)
  | '|' => some ({ s with group := s.group.endBranch }, cs)
  | '[' => s.bracketed cs
  | '*' => s.repeatItem cs
  | '+' => s.repeatItem cs
  | '?' => s.repeatItem cs
  | '\x7b' => none
  | '\\' => s.escape cs
  | '.' => if s.mode.unicode then some (s.add 0, cs) else none
  | '^' => some (s.add 0, cs)
  | '$' => some (s.add 0, cs)
  | _ => s.addLiteral?.map (·, cs)

-- Every element takes at least a character, so the length of the text bounds the
-- number of steps.
def read (fuel : Nat) (s : State) (cs : List Char) : Option State :=
  match s.mode.skip cs, fuel with
  | [], _ => if s.around.isEmpty then some s else none
  | _, 0 => none
  | c :: cs, fuel + 1 => (s.step c cs).bind fun (s, rest) => read fuel s rest

end State

def depthLimit : Nat := 250

def check (text : String) : Except Flaw Unit :=
  let cs := text.toList
  match State.read cs.length {} cs with
  | none => .error .malformed
  | some s =>
      if depthLimit < s.group.depth then .error .malformed
      else if s.wordEdge then .error .wordBoundary
      else .ok ()

end VmLauncher.Text.Pattern
