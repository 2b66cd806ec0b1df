import VmLauncher.Host.Scene
import VmLauncher.Memory.SizeUnit
import VmLauncher.Number.Literal
-- Memory sizes: a literal and a unit, turned into whole bytes and rounded up to a
-- multiple.
namespace VmLauncher.Memory

open Host Number

-- Byte counts stay below this.
def wordLimit : Nat := 1 <<< 64

-- What is being sized: its name, the letters of its directive, what sizes are
-- rounded up to, and the bytes of a page. All counts are below `wordLimit`.
structure SizeSpec where
  name : String
  flag : String
  roundTo : Nat
  pageSize : Nat
deriving DecidableEq, Repr

inductive SizeError where
  | notANumber (token flag : String)
  | unknownUnit (token unit : String)
  | negative (name : String)
  | zero (name : String)
  | outOfRange (subtoken : String)
  -- The note about rounding could not be written.
  | console (source : Host.Error)
deriving DecidableEq, Repr

def SizeError.message : SizeError → String
  | notANumber token flag => s!"\"{token}\": -X{flag} must be followed by a number."
  | unknownUnit token unit =>
      s!"\"{token}\": I don't recognize \"{unit}\" as a unit of memory size"
  | negative name => s!"You may not specify a negative {name};\n\tit just doesn't make any sense."
  | zero name => s!"You may not specify a zero {name};\n\tit just doesn't make any sense."
  | outOfRange subtoken => s!"\"{subtoken}\": out of range to represent internally"
  | console source => "console write failed: " ++ source.message

-- A size before and after rounding up.
structure Measure where
  total : Nat
  rounded : Nat
deriving DecidableEq, Repr

namespace SizeSpec

-- How to write the size, shown after every complaint about one.
def hint (spec : SizeSpec) : String :=
  let flag := spec.flag
  let forms :=
    "\tPlease specify " ++ spec.name ++ " as follows:\n" ++
    s!"\t    in bytes, using \"-X{flag}<positive number>\",\n" ++
    s!"\tor, in kilobytes, using \"-X{flag}<positive number>K\",\n" ++
    s!"\tor, in virtual memory pages of {spec.pageSize} bytes, using\n" ++
    s!"\t\t\"-X{flag}<positive number>pages\",\n" ++
    s!"\tor, in megabytes, using \"-X{flag}<positive number>M\",\n" ++
    s!"\tor, in gigabytes, using \"-X{flag}<positive number>G\"\n" ++
    "  <positive number> can be a floating point value or a hex value like 0x10cafe0."
  if spec.roundTo = 1 then forms
  else
    let page := if spec.roundTo = spec.pageSize then "\n  the virtual memory page size:" else ""
    forms ++ "\n  The # of bytes will be rounded up to a multiple of" ++ page ++
      s!" {spec.roundTo}"

-- What sizes are rounded up to; zero asks for no rounding.
def multiple (spec : SizeSpec) : Nat := max spec.roundTo 1

-- Above this number of units a size is refused, so that rounding up stays in range.
def limit (spec : SizeSpec) (unit : SizeUnit) : Binary64 :=
  (Binary64.ofNat (wordLimit - 1 - spec.multiple)).div (unit.factor spec.pageSize)

-- The whole bytes in so many units, and the multiple they are rounded up to. Part
-- of a byte counts as a byte.
def round? (spec : SizeSpec) (amount : Binary64) (unit : SizeUnit) : Option Measure :=
  let bytes := (amount.mul (unit.factor spec.pageSize)).ceil
  if !amount.isFinite || (spec.limit unit).lt amount then none
  else if !bytes.lt (.ofNat wordLimit) then none
  else
    let total := bytes.toNat
    let remainder := total % spec.multiple
    let rounded := if remainder = 0 then total else total + (spec.multiple - remainder)
    if rounded < wordLimit then some ⟨total, rounded⟩ else none

-- The size that `subtoken`, the part of `token` behind the directive, stands for.
-- The checks come in this order: a number, a known unit, a sign, more than nothing,
-- and range.
def measure (spec : SizeSpec) (token subtoken : String) : Except SizeError Measure :=
  match split? subtoken with
  | none => .error (.notANumber token spec.flag)
  | some (amount, rest) =>
      match SizeUnit.ofText? rest with
      | none => .error (.unknownUnit token rest)
      | some unit =>
          if amount.lt (.zero false) then .error (.negative spec.name)
          else if amount.isZero || amount.isNaN then .error (.zero spec.name)
          else
            match spec.round? amount unit with
            | none => .error (.outOfRange subtoken)
            | some m => .ok m

def roundingNote (spec : SizeSpec) (program : String) (m : Measure) : String :=
  let page := if spec.multiple = spec.pageSize then ", the virtual memory page size" else ""
  s!"{program}: Rounding up {spec.name} from {m.total} bytes to {m.rounded},\n" ++
    s!"\tthe next multiple of {spec.multiple} bytes{page}\n"

def roundingEvent (spec : SizeSpec) (m : Measure) : Journal.Event :=
  ⟨.info, .memorySize, "rounding up memory size",
    [("size", .quoted spec.name), ("from", .number m.total), ("to", .number m.rounded)]⟩

-- As `measure`, and says so where a size had to be rounded up. A note that cannot
-- be written is an error.
def parse (spec : SizeSpec) (token subtoken program : String) (scene : Scene) :
    Except SizeError Nat × Scene :=
  match spec.measure token subtoken with
  | .error e => (.error e, scene)
  | .ok m =>
      if m.rounded = m.total then (.ok m.total, scene)
      else
        match (scene.note (spec.roundingEvent m)).say (spec.roundingNote program m) with
        | (.ok (), scene) => (.ok m.rounded, scene)
        | (.error e, scene) => (.error (.console e), scene)

end SizeSpec

end VmLauncher.Memory
