import VmLauncher.Text.Quoted
-- What the program notes about its own work.
namespace VmLauncher.Journal

inductive Level where
  | error
  | warn
  | info
  | debug
  | trace
deriving DecidableEq, Repr

namespace Level

-- How much detail a level stands for; a filter passes its own detail and less.
def detail : Level → Nat
  | error => 1
  | warn => 2
  | info => 3
  | debug => 4
  | trace => 5

def name : Level → String
  | error => "ERROR"
  | warn => "WARN"
  | info => "INFO"
  | debug => "DEBUG"
  | trace => "TRACE"

-- Of two levels, the one with more detail.
def max (a b : Level) : Level := if a.detail < b.detail then b else a

end Level

-- The level that the verbosity directives ask for: one more with each repetition,
-- and at least debugging as soon as boot messages are wanted.
def levelFor (verbose : UInt32) (verboseBoot : Nat) : Level :=
  let level : Level :=
    match verbose with
    | 0 => .warn
    | 1 => .info
    | 2 => .debug
    | _ => .trace
  if 0 < verboseBoot then level.max .debug else level

-- The part of the program that an event comes from, by the path that filters use.
inductive Source where
  | launcher
  | boot
  | memorySize
  | system
  | exit
  | byteTransfer
  | monitor
  | signal
  | priority
  | thread
  | surface
deriving DecidableEq, Repr

def Source.path : Source → String
  | launcher => "bootvm"
  | boot => "bootvm::boot"
  | memorySize => "bootvm::boot::memory_size"
  | system => "bootvm::sys"
  | exit => "bootvm::sys::exit"
  | byteTransfer => "bootvm::sys::io_ops"
  | monitor => "bootvm::runtime::monitor"
  | signal => "bootvm::runtime::signal"
  | priority => "bootvm::runtime::priority"
  | thread => "bootvm::runtime::thread"
  | surface => "bootvm::runtime::stubs"

inductive Value where
  | number (n : Int)
  | text (s : String)
  | quoted (s : String)
  | quotedList (ss : List String)
  -- A number that only the host knows, such as an address.
  | ofHost
deriving DecidableEq, Repr

structure Event where
  level : Level
  source : Source
  message : String
  fields : List (String × Value)
deriving DecidableEq, Repr

-- The message counts as a field.
def Event.hasField (e : Event) (name : String) : Bool :=
  name = "message" || e.fields.any fun (field, _) => field = name

end VmLauncher.Journal
