import NestedRouting.Text.Basic
import NestedRouting.Unicode.Shape

/-!
# Quoted text

Names and file names appear in messages between double quotes. A quote, a backslash and the common
control characters are written with a backslash; a character without a shape of its own is written
as its hexadecimal code point in braces. All else stands for itself.
-/

namespace NestedRouting.Text

/-- How one character is written between double quotes. -/
def quoteChar (c : Char) : Text :=
  if c = '"' ∨ c = '\\' then ['\\', c]
  else if c = '\n' then ['\\', 'n']
  else if c = '\t' then ['\\', 't']
  else if c = '\r' then ['\\', 'r']
  else if c.toNat = 0 then ['\\', '0']
  else if Unicode.isPrintable c then [c]
  else ['\\', 'u', '\x7b'] ++ Nat.toDigits 16 c.toNat ++ ['\x7d']

/-- The text between double quotes. -/
def quoted (s : Text) : Text := '"' :: s.flatMap quoteChar ++ ['"']

end NestedRouting.Text
