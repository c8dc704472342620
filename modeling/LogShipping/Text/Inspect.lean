import LogShipping.Text.DefaultIgnorable
import LogShipping.Text.GraphemeExtend
import LogShipping.Text.Printable

namespace LogShipping

namespace Inspect

def hexDigits (n : Nat) : List Char :=
  Nat.toDigits 16 n

/-- Whether a character is seen, and seen as one by itself. -/
def isDistinct (c : Char) : Bool :=
  Text.isPrintable c && !Text.isDefaultIgnorable c &&
    (!Text.extendsGrapheme c || Text.isHalfwidthSoundMark c)

/-- Quotation marks, backslashes and the commonest controls have short escapes. What else is not
distinct in print shows as its code point. -/
def escape (c : Char) : List Char :=
  if c = '"' then ['\\', '"']
  else if c = '\\' then ['\\', '\\']
  else if c = '\n' then ['\\', 'n']
  else if c = '\r' then ['\\', 'r']
  else if c = '\t' then ['\\', 't']
  else if c = '\x00' then ['\\', '0']
  else if isDistinct c then [c]
  else ['\\', 'u', '\x7b'] ++ hexDigits c.toNat ++ ['\x7d']

def quoted (s : String) : String :=
  String.ofList ('"' :: s.toList.flatMap escape ++ ['"'])

def truth (b : Bool) : String :=
  if b then "true" else "false"

def optional {α : Type} (text : α → String) : Option α → String
  | none => "None"
  | some a => "Some(" ++ text a ++ ")"

/-- The parts of a value; `hides` tells that it has more than are shown. -/
def parts (name : String) (shown : List (String × String)) (hides : Bool) : String :=
  let entries := shown.map fun (part, text) => part ++ ": " ++ text
  let entries := if hides then entries ++ [".."] else entries
  name ++ " \x7b " ++ String.intercalate ", " entries ++ " \x7d"

end Inspect

end LogShipping
