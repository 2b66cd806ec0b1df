import VmLauncher.Text.Shapeless
-- Text between double quotes, as one readable line: quotes, backslashes and
-- characters without a shape are written as escapes.
namespace VmLauncher.Text

def hexDigits (n : Nat) : List Char := Nat.toDigits 16 n

def escapeChar (c : Char) : List Char :=
  if c = '"' then ['\\', '"']
  else if c = '\\' then ['\\', '\\']
  else if c = '\n' then ['\\', 'n']
  else if c = '\r' then ['\\', 'r']
  else if c = '\t' then ['\\', 't']
  else if c = '\x00' then ['\\', '0']
  else if isShapeless c then ['\\', 'u', '\x7b'] ++ hexDigits c.toNat ++ ['\x7d']
  else [c]

def quote (s : String) : String :=
  String.ofList ('"' :: s.toList.flatMap escapeChar ++ ['"'])

def quoteAll (ss : List String) : String :=
  "[" ++ ", ".intercalate (ss.map quote) ++ "]"

end VmLauncher.Text
