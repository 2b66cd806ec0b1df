import VmLauncher.Memory.Size
import VmLauncher.Session.Basic
import VmLauncher.Text.Utf8
-- Memory sizes read on behalf of compiled code.
namespace VmLauncher.Session

open Options.Usage (programName)

def pageSizeEvent : Journal.Event := ⟨.trace, .system, "determine page size", []⟩

def askPageSize (s : Session) : Nat × Session :=
  (s.surroundings.pageSize, s.note firstThread pageSizeEvent)

-- Asks the host only the first time.
def pageSize (s : Session) : Nat × Session :=
  if s.pageSizeKnown then (s.surroundings.pageSize, s)
  else { s with pageSizeKnown := true }.askPageSize

-- The text of a string in memory, which ends at the first zero byte.
def stringAt (bytes : List UInt8) : String := Text.decodeLossy (bytes.takeWhile (· ≠ 0))

def greatestLong : Nat := 0x7fffffffffffffff

-- A request as it comes from compiled code. A string may be missing.
structure SizeRequest where
  name : Option (List UInt8)
  flag : Option (List UInt8)
  roundTo : Nat
  token : Option (List UInt8)
  subtoken : Option (List UInt8)
deriving DecidableEq, Repr

def complaint (spec : Memory.SizeSpec) (e : Memory.SizeError) : String :=
  programName ++ ": " ++ e.message ++ "\n" ++ spec.hint ++ "\n"

-- Reads a size of which all strings are there. Notes and complaints go to standard
-- error; -1 is the answer to what is no size, and to a size beyond the integers that
-- compiled code knows.
def readSizeOf (s : Session) (name flag : String) (roundTo : Nat) (token subtoken : String) :
    Int × Session :=
  let (pageSize, s) := s.pageSize
  let spec : Memory.SizeSpec := ⟨name, flag, max roundTo 1, pageSize⟩
  let (answer, scene) := spec.parse token subtoken programName ⟨.unlimited, s.files, []⟩
  let s := s.noteAll firstThread scene.journal
  let s := { s with errors := (s.errors.writeBytes scene.console.accepted).2 }
  match answer with
  | .ok bytes => (if bytes ≤ greatestLong then bytes else -1, s)
  | .error e => (-1, s.printErrors (complaint spec e))

def readSize (s : Session) (r : SizeRequest) : Int × Session :=
  match r.name, r.flag, r.token, r.subtoken with
  | some name, some flag, some token, some subtoken =>
      s.readSizeOf (stringAt name) (stringAt flag) r.roundTo (stringAt token) (stringAt subtoken)
  | _, _, _, _ => (-1, s)

end VmLauncher.Session
