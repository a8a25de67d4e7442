import Threading.Text.Unprintable

/-!
# Quoted texts

A text between double quotes that shows every character: a double quote and a
backslash follow a backslash, tabs and line ends are written by a letter, and a
character that is not shown as it is by its code point in braces.
-/

namespace Threading.Text

/-- A character as it stands between quotes. -/
def showChar (c : Char) : List Char :=
  if c = '"' then ['\\', '"']
  else if c = '\\' then ['\\', '\\']
  else if c = '\t' then ['\\', 't']
  else if c = '\r' then ['\\', 'r']
  else if c = '\n' then ['\\', 'n']
  else if c = '\x00' then ['\\', '0']
  else if isUnprintable c then
    ['\\', 'u', '\x7b'] ++ Nat.toDigits 16 c.toNat ++ ['\x7d']
  else [c]

/-- The text between quotes. -/
def quoted (s : String) : String :=
  String.ofList ('"' :: (s.toList.flatMap showChar ++ ['"']))

end Threading.Text
