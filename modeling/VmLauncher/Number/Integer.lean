import VmLauncher.Text.Digits
-- Whole numbers in the notation that chooses its own base: `0x` for sixteen, a
-- leading zero for eight, ten otherwise. Values are held in 64 bits.
namespace VmLauncher.Number.Integer

open Text

-- The largest magnitude kept, which only a negative number can have.
def magnitudeLimit : Nat := 1 <<< 63

def maxValue : Int := magnitudeLimit - 1

structure Reading where
  value : Int
  overflow : Bool
  rest : List Char
deriving DecidableEq, Repr

-- The base that a text announces, and the digits after its mark. A mark without a
-- hexadecimal digit is an octal zero followed by a letter.
def takeBase : List Char → Nat × List Char
  | '0' :: x :: d :: cs =>
      if (x = 'x' || x = 'X') && isDigit 16 d then (16, d :: cs) else (8, '0' :: x :: d :: cs)
  | '0' :: cs => (8, '0' :: cs)
  | cs => (10, cs)

-- Digits are added up below the limit; a larger magnitude stays at the limit and
-- is remembered as an overflow.
def accumulate (radix : Nat) (ds : List Nat) : Nat × Bool :=
  ds.foldl (fun (n, overflow) d =>
    let next := n * radix + d
    if magnitudeLimit < next then (magnitudeLimit, true) else (next, overflow)) (0, false)

-- The longest whole number at the front of the text, after blanks. Without a digit
-- nothing is taken and the value is zero.
def read (cs : List Char) : Reading :=
  let (negative, body) := takeSign (cs.dropWhile isBlank)
  let (radix, body) := takeBase body
  let (digits, rest) := takeDigits radix body
  if digits.isEmpty then ⟨0, false, cs⟩
  else
    let (magnitude, overflow) := accumulate radix digits
    let signed : Int := if negative then -magnitude else magnitude
    if maxValue < signed then ⟨maxValue, true, rest⟩ else ⟨signed, overflow, rest⟩

end VmLauncher.Number.Integer
