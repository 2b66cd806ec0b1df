-- Binary floating point with 53 digits of precision, as exact integers. Every
-- operation is an exact ratio followed by one rounding, `ofRatio`, so a law about
-- that function is a law about all of them.
namespace VmLauncher

-- A finite number has the value `± significand * 2 ^ exponent`. The operations
-- below only build canonical ones: the significand has 53 binary digits, or the
-- exponent is the least one.
inductive Binary64 where
  | nan
  | infinity (negative : Bool)
  | finite (negative : Bool) (significand : Nat) (exponent : Int)
deriving DecidableEq, Repr

namespace Binary64

def precision : Nat := 53

def minExponent : Int := -1074

def maxExponent : Int := 971

-- The least significand of full length, and the least that is too long.
def leastFull : Nat := 1 <<< (precision - 1)

def overfull : Nat := 1 <<< precision

def Canonical : Binary64 → Prop
  | nan => True
  | infinity _ => True
  | finite _ m e =>
      m < overfull ∧ minExponent ≤ e ∧ e ≤ maxExponent ∧ (leastFull ≤ m ∨ e = minExponent)

def zero (negative : Bool) : Binary64 := finite negative 0 minExponent

-- The integer nearest to `num / den`; of two equally near ones, the even one.
def roundHalfEven (num den : Nat) : Nat :=
  let q := num / den
  let r := num % den
  if 2 * r < den then q else if den < 2 * r then q + 1 else q + q % 2

-- Whether `num / den < 2 ^ e`.
def ratioBelow (num den : Nat) (e : Int) : Bool :=
  num <<< (-e).toNat < den <<< e.toNat

-- The exponent of the last place that a number near `num / den` can have: the
-- least one, not under `minExponent`, for which the significand fits.
def quantum (num den : Nat) : Int :=
  let e : Int := num.log2 - den.log2
  max minExponent (if ratioBelow num den e then e - precision else e + 1 - precision)

-- The number nearest to `num / den`, ties to even, infinite from half a place
-- above the largest finite number on. The denominator is positive.
def ofRatio (negative : Bool) (num den : Nat) : Binary64 :=
  if num = 0 then zero negative
  else
    let e := quantum num den
    let m := roundHalfEven (num <<< (-e).toNat) (den <<< e.toNat)
    -- Rounding may carry into one more digit; the significand is then a power of two.
    let carried : Bool := m == overfull
    let m := if carried then leastFull else m
    let e := if carried then e + 1 else e
    if maxExponent < e then infinity negative else finite negative m e

-- The number nearest to `m * 2 ^ e`.
def ofDyadic (negative : Bool) (m : Nat) (e : Int) : Binary64 :=
  ofRatio negative (m <<< e.toNat) (1 <<< (-e).toNat)

def ofNat (n : Nat) : Binary64 := ofRatio false n 1

-- The number nearest to `n * 10 ^ e`. The two early answers only avoid powers of
-- ten that no finite number needs: `10 ^ e` is at least `2 ^ (3 * e)` above one
-- and at most that below one.
def ofDecimal (negative : Bool) (n : Nat) (e : Int) : Binary64 :=
  if n = 0 then zero negative
  else if 0 ≤ e ∧ 1030 < (n.log2 : Int) + 3 * e then infinity negative
  else if (n.log2 : Int) + 1 + 3 * e < -1080 then zero negative
  else ofRatio negative (n * Nat.pow 10 e.toNat) (Nat.pow 10 (-e).toNat)

-- `2 ^ e` found as a power of two or as the reciprocal of one: a reciprocal of
-- something too large to hold is zero.
def twoPow (e : Int) : Binary64 :=
  if 1023 < e then infinity false
  else if e < -1023 then zero false
  else ofDyadic false 1 e

def isNaN : Binary64 → Bool
  | nan => true
  | _ => false

def isFinite : Binary64 → Bool
  | finite .. => true
  | _ => false

def isZero : Binary64 → Bool
  | finite _ m _ => m == 0
  | _ => false

def neg : Binary64 → Binary64
  | nan => nan
  | infinity s => infinity (!s)
  | finite s m e => finite (!s) m e

-- The integer `± m * 2 ^ (e - unit)`, for a unit not above `e`.
def scaled (negative : Bool) (m : Nat) (e unit : Int) : Int :=
  let n := m <<< (e - unit).toNat
  if negative then -(n : Int) else n

-- An exact zero sum is negative only if both operands are.
def add : Binary64 → Binary64 → Binary64
  | nan, _ => nan
  | _, nan => nan
  | infinity s, infinity t => if s == t then infinity s else nan
  | infinity s, finite .. => infinity s
  | finite .., infinity t => infinity t
  | finite s m e, finite t n f =>
      let unit := min e f
      let sum := scaled s m e unit + scaled t n f unit
      if sum = 0 then zero (s && t) else ofDyadic (sum < 0) sum.natAbs unit

def mul : Binary64 → Binary64 → Binary64
  | nan, _ => nan
  | _, nan => nan
  | infinity s, infinity t => infinity (s != t)
  | infinity s, finite t n _ => if n = 0 then nan else infinity (s != t)
  | finite s m _, infinity t => if m = 0 then nan else infinity (s != t)
  | finite s m e, finite t n f => ofDyadic (s != t) (m * n) (e + f)

def div : Binary64 → Binary64 → Binary64
  | nan, _ => nan
  | _, nan => nan
  | infinity _, infinity _ => nan
  | infinity s, finite t _ _ => infinity (s != t)
  | finite s _ _, infinity t => zero (s != t)
  | finite s m e, finite t n f =>
      if n = 0 then (if m = 0 then nan else infinity (s != t))
      else ofRatio (s != t) (m <<< (e - f).toNat) (n <<< (f - e).toNat)

-- Order of the values; nothing is below or above `nan`, and both zeros are equal.
def lt : Binary64 → Binary64 → Bool
  | nan, _ => false
  | _, nan => false
  | infinity s, infinity t => s && !t
  | infinity s, finite .. => s
  | finite .., infinity t => !t
  | finite s m e, finite t n f =>
      let unit := min e f
      scaled s m e unit < scaled t n f unit

-- The least integer not below the value. A negative number between `-1` and `0`
-- goes to the negative zero.
def ceil : Binary64 → Binary64
  | finite s m e =>
      if 0 ≤ e then finite s m e
      else
        let unit := 1 <<< (-e).toNat
        ofRatio s (if s then m / unit else (m + unit - 1) / unit) 1
  | x => x

-- The integer part of a number that is not negative.
def toNat : Binary64 → Nat
  | finite false m e => m <<< e.toNat >>> (-e).toNat
  | _ => 0

-- The interchange form: sign, biased exponent, significand without its leading digit.
def toBits : Binary64 → Nat
  | nan => 0x7ff8 <<< 48
  | infinity s => s.toNat <<< 63 + 0x7ff <<< 52
  | finite s m e =>
      s.toNat <<< 63 +
        (if m < leastFull then m else (e - minExponent + 1).toNat <<< 52 + (m - leastFull))

end Binary64

end VmLauncher
