import VmLauncher.Journal.Event
-- Journal lines: time, level, thread, source, message and fields.
namespace VmLauncher.Journal

inductive Style where
  | plain
  | coloured
deriving DecidableEq, Repr

namespace Style

-- A piece of text between the codes that switch an appearance on and off.
def paint (style : Style) (code text : String) : String :=
  match style with
  | plain => text
  | coloured => "\x1b[" ++ code ++ "m" ++ text ++ "\x1b[0m"

def dim (style : Style) : String → String := style.paint "2"

def italic (style : Style) : String → String := style.paint "3"

end Style

def Level.colour : Level → String
  | .error => "31"
  | .warn => "33"
  | .info => "32"
  | .debug => "34"
  | .trace => "35"

def padLeft (width : Nat) (s : String) : String :=
  String.ofList (List.replicate (width - s.length) ' ') ++ s

def Value.render (hostMark : String) : Value → String
  | .number n => toString n
  | .text s => s
  | .quoted s => Text.quote s
  | .quotedList ss => Text.quoteAll ss
  | .ofHost => hostMark

-- What a line needs beside the event: the time as text, the mark for numbers that
-- only the host knows, and the appearance.
structure Rendering where
  clock : String
  hostMark : String
  style : Style
deriving DecidableEq, Repr

def Rendering.field (r : Rendering) (f : String × Value) : String :=
  " " ++ r.style.italic f.1 ++ r.style.dim "=" ++ f.2.render r.hostMark

-- One line. Levels and thread names are aligned to the right, the latter in as many
-- columns as the longest name so far has bytes.
def Rendering.line (r : Rendering) (threadWidth : Nat) (thread : String) (e : Event) : String :=
  r.style.dim r.clock ++ " " ++ r.style.paint e.level.colour (padLeft 5 e.level.name) ++ " " ++
    padLeft threadWidth thread ++ " " ++ r.style.dim e.source.path ++ r.style.dim ":" ++ " " ++
    e.message ++ String.join (e.fields.map r.field) ++ "\n"

end VmLauncher.Journal
