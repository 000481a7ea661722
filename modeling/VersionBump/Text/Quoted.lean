import VersionBump.Text.Case
import VersionBump.Text.HiddenTable

/-!
# Quoted texts

A text shown in double quotes. Quotes, backslashes and line ends have short escapes, and characters
that cannot be shown are given by their hexadecimal number in braces.
-/

namespace VersionBump.Text

/-- The characters that stand for `c` between the quotes. -/
def showChar (c : Char) : List Char :=
  if c == '"' then ['\\', '"']
  else if c == '\\' then ['\\', '\\']
  else if c == '\n' then ['\\', 'n']
  else if c == '\r' then ['\\', 'r']
  else if c == '\t' then ['\\', 't']
  else if c.toNat = 0 then ['\\', '0']
  else if inRanges HiddenTable.hidden c.toNat then
    ['\\', 'u', '\x7b'] ++ Nat.toDigits 16 c.toNat ++ ['\x7d']
  else [c]

/-- The text in quotes. -/
def quoted (s : String) : String := String.ofList ('"' :: (s.toList.flatMap showChar ++ ['"']))

end VersionBump.Text
