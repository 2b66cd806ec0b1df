import VmLauncher.Journal.Event
import VmLauncher.Number.Literal
import VmLauncher.Text.Pattern
import VmLauncher.Text.Utf8
import VmLauncher.Text.WhiteSpace
-- Which events are kept: a list of directives such as `warn,bootvm::boot=trace`.
namespace VmLauncher.Journal

-- Events whose source path starts with the target, and which have the field, are kept
-- up to some detail; zero keeps none. Without a target or a field the directive asks
-- for none. One for spans is about no event: no event lies in a span here.
structure Directive where
  target : Option String := none
  field : Option String := none
  forSpans : Bool := false
  detail : Nat
deriving DecidableEq, Repr

abbrev Filter := List Directive

-- The detail that keeps every event.
def fullDetail : Nat := Level.trace.detail

namespace Filter

-- Why a piece of a setting is not a directive.
inductive Refusal where
  | malformed
  | unknownLevel
  | field (flaw : Text.Pattern.Flaw)
deriving DecidableEq, Repr

def Refusal.message : Refusal → String
  | malformed => "invalid filter directive"
  | unknownLevel =>
      "error parsing level filter: expected one of \"off\", \"error\", \"warn\", \"info\", " ++
        "\"debug\", \"trace\", or a number 0-5"
  | field .malformed => "invalid field filter: error building NFA"
  | field .wordBoundary =>
      "invalid field filter: unsupported regex feature for DFAs: cannot build DFAs for " ++
        "regexes with Unicode word boundaries; switch to ASCII word boundaries, or " ++
        "heuristically enable Unicode word boundaries or use a different regex engine"

-- The detail that a word stands for: a level by its name, in letters of either case, or
-- a number, which may have a plus in front.
def detailOfWord? (word : String) : Option Nat :=
  match word.toLower with
  | "off" => some 0
  | "error" => some 1
  | "warn" => some 2
  | "info" => some 3
  | "debug" => some 4
  | "trace" => some 5
  | _ =>
      let digits :=
        match word.toList with
        | '+' :: cs => cs
        | cs => cs
      if !digits.isEmpty && digits.all Char.isDigit then
        some (Text.digitsValue 10 (Text.takeDigits 10 digits).1) |>.filter (· ≤ fullDetail)
      else none

-- Parts of a piece are found in what is left of it without the blanks around it, and
-- taken from the same bytes of the whole piece: with blanks in front, other ones.
def cut (piece : String) (start stop : Nat) : String :=
  Text.decodeLossy (((Text.utf8 piece).drop start).take (stop - start))

def cutFrom (piece : String) (start : Nat) : String :=
  Text.decodeLossy ((Text.utf8 piece).drop start)

def byteCount (cs : List Char) : Nat := cs.foldr (fun c n => c.utf8Size + n) 0

def trim (cs : List Char) : List Char :=
  ((cs.dropWhile Text.isWhiteSpace).reverse.dropWhile Text.isWhiteSpace).reverse

-- A bracket begins a span.
def beginsDirective (c : Char) : Bool :=
  Text.isAlphanumeric c || c = '_' || c = ':' || c = '-' || c = '['

-- The detail behind an equals sign; nothing there asks for all of it.
def detailOf (word : String) : Except Refusal Nat :=
  if word = "" then .ok fullDetail
  else
    match detailOfWord? word with
    | some detail => .ok detail
    | none => .error .unknownLevel

-- What may follow a span, which begins at some byte: nothing, or a detail.
def detailAfterSpan (piece : String) (start : Nat) : List Char → Except Refusal Nat
  | [] => .ok fullDetail
  | '=' :: _ => detailOf (cutFrom piece (start + 1))
  | _ => .error .malformed

-- A decimal number with a plus in front; without one it is a pattern as well.
def isPlusNumber (cs : List Char) : Bool :=
  match cs with
  | '+' :: cs =>
      ["inf", "infinity", "nan"].contains (String.ofList cs).toLower ||
        match Number.Literal.takeUnsigned? false .decimal cs with
        | some (_, []) => true
        | _ => false
  | _ => false

-- The name of a field, and whether a value is asked for, which is a number or a
-- pattern.
def fieldOf (text : String) : Except Refusal (String × Bool) :=
  let cs := text.toList
  let name := String.ofList (cs.takeWhile (· ≠ '='))
  match cs.dropWhile (· ≠ '=') with
  | [] => .ok (name, false)
  | _ :: rest =>
      let value := rest.takeWhile (· ≠ '=')
      if isPlusNumber value then .ok (name, true)
      else
        match Text.Pattern.check (String.ofList value) with
        | .ok () => .ok (name, true)
        | .error flaw => .error (.field flaw)

-- A span in brackets: its name, a field in braces, or both. `start` is the byte at
-- which the name begins.
def readSpan (piece : String) (target : Option String) (start : Nat) (cs : List Char) :
    Except Refusal Directive :=
  let name := cs.takeWhile fun c => c ≠ ']' && c ≠ '\x7b'
  let stop := start + byteCount name
  match cs.drop name.length with
  | ']' :: rest => do
      let detail ← detailAfterSpan piece (stop + 1) rest
      return { target, forSpans := true, detail }
  | '\x7b' :: rest => do
      let body := rest.takeWhile (· ≠ '\x7d')
      let last := stop + 1 + byteCount body
      if body.isEmpty || body.length = rest.length then .error .malformed
      let (field, valued) ← fieldOf (cut piece (stop + 1) last)
      match rest.drop (body.length + 1) with
      | ']' :: rest =>
          let detail ← detailAfterSpan piece (last + 2) rest
          return { target, field := some field, forSpans := valued || !name.isEmpty, detail }
      | _ => .error .malformed
  | _ => .error .malformed

-- A word for a detail; or a target, a span or both, and a detail behind an equals sign.
def directiveOf (piece : String) : Except Refusal Directive :=
  let body := trim piece.toList
  let head := body.takeWhile fun c => c ≠ '=' && c ≠ '['
  let stop := byteCount head
  if !(body.head?.any beginsDirective) then .error .malformed
  else
    match body.drop head.length with
    | [] =>
        match detailOfWord? piece with
        | some detail => .ok { detail }
        | none => .ok { target := some piece, detail := fullDetail }
    | '[' :: rest =>
        readSpan piece (if head.isEmpty then none else some (cut piece 0 stop)) (stop + 1) rest
    | _ => do
        let detail ← detailOf (cutFrom piece (stop + 1))
        return { target := some (cut piece 0 stop), detail }

-- The pieces of a text between commas.
def cutAtCommas : List Char → List (List Char)
  | [] => [[]]
  | c :: cs =>
      match cutAtCommas cs with
      | [] => [[c]]
      | piece :: pieces => if c = ',' then [] :: piece :: pieces else (c :: piece) :: pieces

-- The pieces of a setting that have something in them.
def pieces (setting : Option String) : List String :=
  ((cutAtCommas (setting.getD "").toList).filter (· ≠ [])).map String.ofList

def readDirective? (piece : String) : Option Directive := (directiveOf piece).toOption

-- The directives of a setting; pieces that are none are left out. A setting without
-- any, or no setting, keeps what the verbosity asks for.
def ofSetting (setting : Option String) (level : Level) : Filter :=
  match (pieces setting).filterMap readDirective? with
  | [] => [{ detail := level.detail }]
  | directives => directives

-- What is said about the pieces that were left out, a line for each.
def complaint (piece : String) : String :=
  match directiveOf piece with
  | .ok _ => ""
  | .error refusal => s!"ignoring \u0060{piece}\u0060: {refusal.message}\n"

def complaints (setting : Option String) : String :=
  String.join ((pieces setting).map complaint)

def targetLength (d : Directive) : Nat :=
  match d.target with
  | none => 0
  | some t => t.utf8ByteSize + 1

def appliesTo (event : Event) (d : Directive) : Bool :=
  !d.forSpans &&
    (d.target.all fun t => t.toList.isPrefixOf event.source.path.toList) &&
    d.field.all event.hasField

-- Whether `d` stands above `b` or beside it: a longer target does, then a field, and of
-- two fields the one with the later name.
def standsAbove (d b : Directive) : Bool :=
  if targetLength d = targetLength b then
    match d.field, b.field with
    | _, none => true
    | none, some _ => false
    | some f, some g => !(f < g : Bool)
  else targetLength b < targetLength d

-- The directive that stands above all others decides; of two for the same events, the
-- later.
def governing? (filter : Filter) (event : Event) : Option Directive :=
  (filter.filter (appliesTo event)).foldl (fun best d =>
    match best with
    | none => some d
    | some b => if standsAbove d b then some d else some b) none

def passes (filter : Filter) (event : Event) : Bool :=
  match filter.governing? event with
  | none => false
  | some d => event.level.detail ≤ d.detail

end Filter

end VmLauncher.Journal
