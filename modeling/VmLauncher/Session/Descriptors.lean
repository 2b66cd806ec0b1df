import VmLauncher.Channel.Notes
import VmLauncher.Session.Basic
-- Bytes in and out of descriptors that are not open.
namespace VmLauncher.Session

def unopened : Channel := { kind := .pipe }

def readByteClosed (s : Session) (fd : Int) : Int × Session :=
  (Channel.Code.readByte (Channel.readByte none unopened).1,
   s.noteAll firstThread (Channel.readByteEvents fd))

def writeByteClosed (s : Session) (fd : Int) (b : UInt8) : Int × Session :=
  let answer := (Channel.writeByte none b unopened).1
  (Channel.Code.writeByte answer, s.noteAll firstThread (Channel.writeByteEvents fd b answer))

def readBytesClosed (s : Session) (fd : Int) (count : Nat) : Int × Session :=
  let answer := (Channel.readBytes none count unopened).1
  (Channel.Code.readBytes answer, s.noteAll firstThread (Channel.readBytesEvents fd count answer))

def writeBytesClosed (s : Session) (fd : Int) (bytes : List UInt8) : Int × Session :=
  let answer := (Channel.writeBytes none bytes unopened).1
  (Channel.Code.writeBytes answer,
   s.noteAll firstThread (Channel.writeBytesEvents fd bytes.length answer))

end VmLauncher.Session
