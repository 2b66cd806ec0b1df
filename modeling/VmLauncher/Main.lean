import Std.Time
import VmLauncher.Launch
-- The command. What a run can ask of the host is looked up before it, and what it did
-- is carried out after it.
namespace VmLauncher.Command

open Host

-- The variable that the journal's filter is set by.
def filterVariable : String := "RUST_LOG"

-- The part of a token that may be a path.
def pathIn (token : String) : String :=
  String.ofList ((token.toList.dropWhile (· ≠ '=')).drop 1)

-- The locations that a path leads through, its target included.
def onTheWay (place : Location) : List String → List Location
  | [] => [place]
  | "." :: names => onTheWay place names
  | ".." :: names => place :: onTheWay place.dropLast names
  | name :: names => place :: onTheWay (place ++ [name]) names

def locations (here : Location) (path : String) : List Location :=
  onTheWay (if Files.startsAtRoot path then [] else here) (Files.steps path)

def hostPath (place : Location) : String := "/" ++ "/".intercalate place

-- What the host has at a location. The content of a file is not needed: a run only
-- adds to it.
def nodeAt (place : Location) : IO (Option Node) := do
  let path := (← IO.currentDir) / hostPath place
  if ← path.isDir then return some .folder
  else if ← path.pathExists then return some (.file "")
  else return none

def filesFor (args : List String) : IO Files := do
  let here := Files.steps (← IO.currentDir).toString
  let named := args.flatMap fun a => locations here (pathIn a)
  let places := (onTheWay [] here ++ named).eraseDups
  let mut entries := []
  for place in places do
    if place ≠ [] then
      if let some node ← nodeAt place then entries := entries ++ [(place, node)]
  return ⟨entries, here⟩

-- Adds to the host's files what a run added to its own.
def carryOut (before after : Files) : IO Unit := do
  for (place, node) in after.entries do
    if let .file content := node then
      if before.node? place ≠ some node then
        let file ← IO.FS.Handle.mk (hostPath place) .append
        file.putStr content

def clock : IO String := do
  let now := Std.Time.DateTime.ofTimestampWithZone (← Std.Time.Timestamp.now) Std.Time.TimeZone.UTC
  return now.format "uuuu-MM-dd'T'HH:mm:ss.SSSSSS'Z'"

def write (stream : IO.FS.Stream) (c : Console) : IO Unit := do
  stream.write ⟨c.accepted.toArray⟩
  stream.flush

end VmLauncher.Command

open VmLauncher in
def main (args : List String) : IO UInt32 := do
  let files ← Command.filesFor args
  let surroundings : Surroundings :=
    { filterSetting := ← IO.getEnv Command.filterVariable
      clock := ← Command.clock
      hostMark := "?" }
  let (code, s) := Launch.run (some (← IO.appPath).toString) args { surroundings, files }
  Command.write (← IO.getStdout) s.output
  Command.carryOut files s.files
  Command.write (← IO.getStderr) s.errors
  return UInt32.ofNat code
