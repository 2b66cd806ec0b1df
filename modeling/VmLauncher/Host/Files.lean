import VmLauncher.Host.Error
-- A tree of files as the host shows it: what a path names, and what opening one to
-- append to it does.
namespace VmLauncher.Host

-- The names on the way from the root.
abbrev Location := List String

inductive Node where
  | file (content : String)
  | folder
  -- Keeps nothing of what is written to it; one that is full refuses it.
  | device (full : Bool)
deriving DecidableEq, Repr

-- Every entry but the root, which is always there, and the folder that relative
-- paths start from.
structure Files where
  entries : List (Location × Node)
  here : Location
deriving DecidableEq, Repr

namespace Files

def node? (fs : Files) (place : Location) : Option Node :=
  if place = [] then some .folder else fs.entries.lookup place

def nameLimit : Nat := 255

def pathLimit : Nat := 4095

-- The pieces of a text between slashes, in order; there is one more than slashes.
def cutAtSlashes : List Char → List (List Char)
  | [] => [[]]
  | c :: cs =>
      match cutAtSlashes cs with
      | [] => [[c]]
      | name :: names => if c = '/' then [] :: name :: names else (c :: name) :: names

-- The names that a path goes through; empty ones, from repeated slashes, count
-- for nothing.
def steps (path : String) : List String :=
  ((cutAtSlashes path.toList).filter (· ≠ [])).map String.ofList

def endsInSlash (path : String) : Bool := path.toList.getLast? = some '/'

def startsAtRoot (path : String) : Bool := path.toList.head? = some '/'

-- One name further, from a place that has to be a folder.
def child (fs : Files) (place : Location) (name : String) : Except Error Location :=
  match fs.node? place with
  | some .folder =>
      if name = "." then .ok place
      else if name = ".." then .ok place.dropLast
      else if nameLimit < name.utf8ByteSize then .error .nameTooLong
      else .ok (place ++ [name])
  | some _ => .error .notADirectory
  | none => .error .noSuchEntry

-- Down through names that all have to be there.
def walk (fs : Files) : Location → List String → Except Error Location
  | place, [] => .ok place
  | place, name :: names => do
      let next ← fs.child place name
      if (fs.node? next).isNone then .error .noSuchEntry else fs.walk next names

-- What can be said about a path before the tree is looked at.
def checkPath (path : String) : Except Error Unit :=
  if path.toList.contains '\x00' then .error .nulInPath
  else if path = "" then .error .noSuchEntry
  else if pathLimit < path.utf8ByteSize then .error .nameTooLong
  else .ok ()

def start (fs : Files) (path : String) : Location :=
  if startsAtRoot path then [] else fs.here

-- What the path names. A slash at the end asks for a folder.
def find (fs : Files) (path : String) : Except Error Node := do
  checkPath path
  let found ← fs.walk (fs.start path) (steps path)
  match fs.node? found with
  | none => .error .noSuchEntry
  | some .folder => .ok .folder
  | some node => if endsInSlash path then .error .notADirectory else .ok node

-- Where writing to the path would go, for a path that has to name a file and may
-- name a new one. A path that can only name a folder is refused as a folder,
-- whether there is one or not.
def target (fs : Files) (path : String) : Except Error Location := do
  checkPath path
  let names := steps path
  match names.getLast? with
  | none => .error .isADirectory
  | some last =>
      let folder ← fs.walk (fs.start path) names.dropLast
      if fs.node? folder ≠ some .folder then .error .notADirectory
      else if last = "." || last = ".." || endsInSlash path then .error .isADirectory
      else fs.child folder last

-- Opens a file to write at its end. A file that is not there is made, empty; one
-- that is there keeps its content.
def openAppend (fs : Files) (path : String) : Except Error (Location × Files) := do
  let place ← fs.target path
  match fs.node? place with
  | some .folder => .error .isADirectory
  | some _ => .ok (place, fs)
  | none => .ok (place, { fs with entries := fs.entries ++ [(place, .file "")] })

-- Writes at the end of what is at a location; a device drops it.
def append (fs : Files) (place : Location) (text : String) : Except Error Files :=
  if fs.node? place = some (.device true) then .error .storageFull
  else
    .ok
      { fs with
        entries := fs.entries.map fun (spot, node) =>
          match node with
          | .file content => (spot, if spot = place then .file (content ++ text) else node)
          | _ => (spot, node) }

-- The entries below the starting folder, named from there; folders end in a slash
-- and have no content.
def listing (fs : Files) : List (String × Option String) :=
  fs.entries.filterMap fun (place, node) =>
    if fs.here.isPrefixOf place && fs.here ≠ place then
      let path := "/".intercalate (place.drop fs.here.length)
      match node with
      | .file content => some (path, some content)
      | .folder => some (path ++ "/", none)
      | .device _ => some (path, none)
    else none

end Files

end VmLauncher.Host
