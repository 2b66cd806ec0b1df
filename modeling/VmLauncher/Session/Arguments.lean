import VmLauncher.Session.Basic
-- The published boot arguments, as compiled code reads them back: integers of 32
-- bits and buffers.
namespace VmLauncher.Session

def arguments? (s : Session) : Option Options.BootArguments := s.installed.bind (·.arguments)

-- The residual arguments that were published; none before.
def residual (s : Session) : List String :=
  match s.arguments? with
  | some a => a.residual
  | none => []

def initialHeap (s : Session) : Nat := (s.arguments?.map (·.initial)).getD 0

def maximumHeap (s : Session) : Nat := (s.arguments?.map (·.maximum)).getD 0

def greatestInteger : Nat := 0x7fffffff

def argumentCount (s : Session) : Int := min s.residual.length greatestInteger

-- Memory that a caller hands over: what is there, or nothing at all, and the size
-- that it claims.
structure Buffer where
  bytes : Option (List UInt8)
  size : Int
deriving DecidableEq, Repr

-- Puts bytes at the start of a buffer, if all of them fit.
def Buffer.store? (b : Buffer) (data : List UInt8) : Option Buffer :=
  if b.size < 0 then none
  else if b.bytes.isNone && 0 < b.size then none
  else if b.size < data.length then none
  else some { b with bytes := b.bytes.map fun old => data ++ old.drop data.length }

-- The length of an argument that was put into the buffer, or -1 and the buffer as it
-- was. The index -1 asks for the number of arguments.
def readArgument (s : Session) (index : Int) (b : Buffer) : Int × Buffer :=
  if index = -1 then (s.argumentCount, b)
  else if index < 0 then (-1, b)
  else
    match s.residual[index.toNat]? with
    | none => (-1, b)
    | some argument =>
        let data := Text.utf8 argument
        match b.store? data with
        | none => (-1, b)
        | some b => (data.length, b)

end VmLauncher.Session
