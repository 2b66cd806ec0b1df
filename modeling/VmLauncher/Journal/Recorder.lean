import VmLauncher.Host.Files
import VmLauncher.Journal.Filter
import VmLauncher.Journal.Line
-- Keeping a journal: which events become lines, and where the lines go.
namespace VmLauncher.Journal

inductive Sink where
  | file (place : Host.Location)
  | standardError
deriving DecidableEq, Repr

-- Lines are coloured where a person may be looking at them.
def Sink.style : Sink → Style
  | file _ => .plain
  | standardError => .coloured

structure Recorder where
  filter : Filter
  sink : Sink
  clock : String
  hostMark : String
  -- The bytes of the longest thread name that a line was written for.
  threadWidth : Nat := 0
deriving DecidableEq, Repr

namespace Recorder

def rendering (r : Recorder) : Rendering := ⟨r.clock, r.hostMark, r.sink.style⟩

-- The line for an event of a thread, if the filter lets it pass.
def line? (r : Recorder) (thread : String) (e : Event) : Option (String × Recorder) :=
  if r.filter.passes e then
    let width := max r.threadWidth thread.utf8ByteSize
    some (r.rendering.line width thread e, { r with threadWidth := width })
  else none

end Recorder

end VmLauncher.Journal
