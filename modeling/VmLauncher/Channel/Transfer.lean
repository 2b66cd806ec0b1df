import VmLauncher.Channel.HostCalls
import VmLauncher.Journal.Event
-- Bytes in and out of a channel, and what calls that move them note.
namespace VmLauncher.Channel

open Host (Error)

def readByte (side : Option Side) : Channel → Except Error ByteRead × Channel :=
  (descriptor side).readByte

def readBytes (side : Option Side) (count : Nat) :
    Channel → Except Error (Option (List UInt8)) × Channel :=
  (descriptor side).readBytes count

def writeBytes (side : Option Side) (bytes : List UInt8) :
    Channel → Except Error (Option Nat) × Channel :=
  (descriptor side).writeBytes bytes

def writeByte (side : Option Side) (b : UInt8) : Channel → Except Error (Option Nat) × Channel :=
  (descriptor side).writeByte b

-- The same for compiled code.
def readByteCode (side : Option Side) : Channel → Int × Channel := (descriptor side).readByteCode

def writeByteCode (side : Option Side) (byte : Int) : Channel → Int × Channel :=
  (descriptor side).writeByteCode byte

def readInto (side : Option Side) (count : Int) (null : Bool) :
    Channel → (Int × List UInt8) × Channel :=
  (descriptor side).readInto count null

def writeFrom (side : Option Side) (buffer : List UInt8) (count : Int) (null : Bool) :
    Channel → Int × Channel :=
  (descriptor side).writeFrom buffer count null

-- What failing calls note, with the descriptor that they were made on.
def failureEvent (what : String) (fd : Int) (e : Error) : Journal.Event :=
  ⟨.warn, .byteTransfer, what,
    [("fd", .number fd)] ++
    (e.errno?.map fun n => ("errno", Journal.Value.number n)).toList ++
    [("error", .text e.message)]⟩

def callEvent (what : String) (fd : Int) (fields : List (String × Journal.Value)) :
    Journal.Event :=
  ⟨.trace, .byteTransfer, what, ("fd", .number fd) :: fields⟩

end VmLauncher.Channel
