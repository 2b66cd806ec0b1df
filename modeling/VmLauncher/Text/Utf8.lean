-- Text as UTF-8 bytes, and bytes read as such text, with a replacement character for
-- what is none.
namespace VmLauncher.Text

def utf8 (s : String) : List UInt8 := s.toUTF8.toList

def replacement : Char := '\ufffd'

-- How many bytes continue a first byte, and the range that the second byte must be
-- in; overlong forms, surrogates and what lies above the last code point are ruled
-- out by that range alone.
def continuation? (first : Nat) : Option (Nat × Nat × Nat) :=
  if 0xc2 ≤ first ∧ first ≤ 0xdf then some (1, 0x80, 0xbf)
  else if first = 0xe0 then some (2, 0xa0, 0xbf)
  else if first = 0xed then some (2, 0x80, 0x9f)
  else if 0xe1 ≤ first ∧ first ≤ 0xef then some (2, 0x80, 0xbf)
  else if first = 0xf0 then some (3, 0x90, 0xbf)
  else if 0xf1 ≤ first ∧ first ≤ 0xf3 then some (3, 0x80, 0xbf)
  else if first = 0xf4 then some (3, 0x80, 0x8f)
  else none

-- The payload of the first byte of a form with so many bytes after it.
def leadBits (following first : Nat) : Nat :=
  match following with
  | 1 => first % 32
  | 2 => first % 16
  | _ => first % 8

-- What a decoder has taken of a character that is not complete: its value so far,
-- how many bytes are missing and the range of the next.
structure Pending where
  value : Nat
  missing : Nat
  low : Nat
  high : Nat
deriving DecidableEq, Repr

-- A byte at the start of a character.
def beginChar (b : Nat) : List Char × Option Pending :=
  if b < 0x80 then ([Char.ofNat b], none)
  else
    match continuation? b with
    | some (n, low, high) => ([], some ⟨leadBits n b, n, low, high⟩)
    | none => ([replacement], none)

-- One byte more. A byte that cannot continue a character ends it with one
-- replacement and is looked at again as a first byte.
def acceptByte (pending : Option Pending) (b : Nat) : List Char × Option Pending :=
  match pending with
  | none => beginChar b
  | some p =>
      if p.low ≤ b ∧ b ≤ p.high then
        let value := p.value * 64 + b % 64
        if p.missing ≤ 1 then ([Char.ofNat value], none)
        else ([], some ⟨value, p.missing - 1, 0x80, 0xbf⟩)
      else
        let (out, next) := beginChar b
        (replacement :: out, next)

-- The text that the bytes spell. Each longest piece that no character starts with,
-- and a character cut off at the end, gives one replacement.
def decodeChars (pending : Option Pending) : List UInt8 → List Char
  | [] => if pending.isSome then [replacement] else []
  | b :: bs =>
      let (out, next) := acceptByte pending b.toNat
      out ++ decodeChars next bs

def decodeLossy (bytes : List UInt8) : String :=
  String.ofList (decodeChars none bytes)

end VmLauncher.Text
