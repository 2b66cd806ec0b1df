import VmLauncher.Number.Integer
import VmLauncher.Text.WhiteSpace
-- Verbosity levels: whole numbers that are not negative and fit in 31 bits.
namespace VmLauncher.Number

inductive LevelError where
  | negative
  | tooBig
  | notANumber (text : String)
deriving DecidableEq, Repr

def LevelError.describe (what : String) : LevelError → String
  | .negative => s!"You may not specify a negative {what} value"
  | .tooBig => "too big a number to represent internally"
  | .notANumber text => s!"I don't recognize \"{text}\" as a number"

def levelLimit : Int := 0x7fffffff

-- The sign is looked at first, then the size, then what follows the number. White
-- space may follow. A text with no digit reads as zero with all of it following.
def readLevel (s : String) : Except LevelError Nat :=
  let r := Integer.read s.toList
  if r.value < 0 then .error .negative
  else if r.overflow || levelLimit < r.value then .error .tooBig
  else if r.rest.all Text.isWhiteSpace then .ok r.value.toNat
  else .error (.notANumber s)

end VmLauncher.Number
