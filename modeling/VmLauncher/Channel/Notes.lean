import VmLauncher.Channel.Transfer
-- What calls that move bytes note: first that they are made, then how they went
-- wrong.
namespace VmLauncher.Channel

open Host (Error)
open Journal (Event)

def readByteEvents (fd : Int) : List Event := [callEvent "read byte" fd []]

def writeByteEvents (fd : Int) (b : UInt8) (answer : Except Error (Option Nat)) : List Event :=
  callEvent "write byte" fd [("byte", .number b.toNat)] ::
    match answer with
    | .ok _ => []
    | .error e => [failureEvent "write byte failed" fd e]

def readBytesEvents (fd : Int) (count : Nat) (answer : Except Error (Option (List UInt8))) :
    List Event :=
  callEvent "read" fd [("len", .number count)] ::
    match answer with
    | .ok (some _) => []
    | .ok none => [callEvent "read would have blocked: needs retry" fd []]
    | .error e => [failureEvent "read error" fd e]

def writeBytesEvents (fd : Int) (count : Nat) (answer : Except Error (Option Nat)) : List Event :=
  callEvent "write" fd [("len", .number count)] ::
    match answer with
    | .ok (some _) => []
    | .ok none => [callEvent "write would have blocked: needs retry" fd []]
    | .error e =>
        if e.kind = .brokenPipe then [callEvent "write with nobody to read it" fd []]
        else [failureEvent "write error" fd e]

end VmLauncher.Channel
