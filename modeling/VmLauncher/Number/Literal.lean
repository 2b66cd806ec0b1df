import VmLauncher.Binary64
import VmLauncher.Text.Digits
-- Floating literals: what one is made of, how the longest one at the front of a
-- text is found, and the number it stands for.
namespace VmLauncher.Number

open Text

inductive Base where
  | decimal
  | hexadecimal
deriving DecidableEq, Repr

def Base.radix : Base → Nat
  | .decimal => 10
  | .hexadecimal => 16

-- The letters that announce an exponent: of ten in a decimal literal, of two in a
-- hexadecimal one, whose digits already use the letter e.
def Base.marksExponent : Base → Char → Bool
  | .decimal, c => c = 'e' || c = 'E'
  | .hexadecimal, c => c = 'p' || c = 'P'

structure Exponent where
  negative : Bool
  digits : List Nat
deriving DecidableEq, Repr

def Exponent.value (e : Exponent) : Int :=
  if e.negative then -(digitsValue 10 e.digits : Int) else digitsValue 10 e.digits

-- The largest exponent that is counted to.
def Exponent.limit : Nat := 0x7fffffff

-- The exponent as it is added up digit by digit: past the limit, neither the next multiple
-- nor the sum grows.
def Exponent.counted (e : Exponent) : Int :=
  let magnitude := e.digits.foldl (fun n d => min limit (min limit (n * 10) + d)) 0
  if e.negative then -(magnitude : Int) else magnitude

-- A literal by its parts: the digits before and after the point as digit values.
structure Literal where
  negative : Bool
  base : Base
  whole : List Nat
  fraction : List Nat
  exponent : Option Exponent
deriving DecidableEq, Repr

namespace Literal

-- Digits with an optional point among them, at least one digit in all. A point
-- with no digit on either side belongs to what follows.
def takeMantissa? (base : Base) (cs : List Char) : Option (List Nat × List Nat × List Char) :=
  let (whole, rest) := takeDigits base.radix cs
  match rest with
  | '.' :: after =>
      let (fraction, rest) := takeDigits base.radix after
      if whole.isEmpty && fraction.isEmpty then none else some (whole, fraction, rest)
  | _ => if whole.isEmpty then none else some (whole, [], rest)

-- An exponent counts only if a digit follows its letter and sign.
def takeExponent (base : Base) : List Char → Option Exponent × List Char
  | [] => (none, [])
  | c :: cs =>
      if base.marksExponent c then
        let (negative, rest) := takeSign cs
        let (digits, rest) := takeDigits 10 rest
        if digits.isEmpty then (none, c :: cs) else (some ⟨negative, digits⟩, rest)
      else (none, c :: cs)

def takeUnsigned? (negative : Bool) (base : Base) (cs : List Char) :
    Option (Literal × List Char) :=
  (takeMantissa? base cs).map fun (whole, fraction, rest) =>
    let (exponent, rest) := takeExponent base rest
    (⟨negative, base, whole, fraction, exponent⟩, rest)

-- What follows the mark of a hexadecimal literal, if the text starts with it.
def afterMark? : List Char → Option (List Char)
  | '0' :: x :: cs => if x = 'x' || x = 'X' then some cs else none
  | _ => none

-- The longest literal at the front of the text, after blanks, and the rest. The
-- mark with no digit behind it is the decimal literal zero and a letter.
def scan? (cs : List Char) : Option (Literal × List Char) :=
  let (negative, body) := takeSign (cs.dropWhile isBlank)
  match (afterMark? body).bind (takeUnsigned? negative .hexadecimal) with
  | some found => some found
  | none => takeUnsigned? negative .decimal body

-- The digits before the point, added up from the left in floating point.
def hexWhole (ds : List Nat) : Binary64 :=
  ds.foldl (fun v d => (v.mul (.ofNat 16)).add (.ofNat d)) (.zero false)

-- The digits after the point, added to `v`; the first one weighs `scale`.
def addHexFraction (v scale : Binary64) : List Nat → Binary64
  | [] => v
  | d :: ds => addHexFraction (v.add ((Binary64.ofNat d).mul scale)) (scale.div (.ofNat 16)) ds

-- The number a literal stands for. A decimal literal is rounded once. A
-- hexadecimal one is summed digit by digit and scaled by its exponent, so it is
-- exact only while every partial sum is.
def value (l : Literal) : Binary64 :=
  match l.base with
  | .decimal =>
      let exponent := (l.exponent.map Exponent.value).getD 0 - l.fraction.length
      .ofDecimal l.negative (digitsValue 10 (l.whole ++ l.fraction)) exponent
  | .hexadecimal =>
      let sum := addHexFraction (hexWhole l.whole) ((Binary64.ofNat 1).div (.ofNat 16)) l.fraction
      let magnitude :=
        match l.exponent with
        | none => sum
        | some e => sum.mul (.twoPow e.counted)
      if l.negative then magnitude.neg else magnitude

end Literal

-- The number at the front of a text, with the text after it.
def split? (s : String) : Option (Binary64 × String) :=
  (Literal.scan? s.toList).map fun (l, rest) => (l.value, String.ofList rest)

end VmLauncher.Number
