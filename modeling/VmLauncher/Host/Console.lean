import VmLauncher.Host.Error
import VmLauncher.Text.Utf8
-- Where text for the user goes. A console may take only so many bytes and then
-- fail; what it took until then stays written.
namespace VmLauncher.Host

-- The bytes taken so far, and how many more it takes; `none` is without end.
structure Console where
  accepted : List UInt8
  room : Option Nat
deriving DecidableEq, Repr

namespace Console

def unlimited : Console := ⟨[], none⟩

def limited (bytes : Nat) : Console := ⟨[], some bytes⟩

-- All of the bytes, or as many of them as there is room for and a failure.
def writeBytes (c : Console) (bytes : List UInt8) : Except Error Unit × Console :=
  match c.room with
  | none => (.ok (), ⟨c.accepted ++ bytes, none⟩)
  | some room =>
      if bytes.length ≤ room then (.ok (), ⟨c.accepted ++ bytes, some (room - bytes.length)⟩)
      else (.error .consoleClosed, ⟨c.accepted ++ bytes.take room, some 0⟩)

def write (c : Console) (text : String) : Except Error Unit × Console :=
  c.writeBytes (Text.utf8 text)

end Console

end VmLauncher.Host
