/-
# Quoted text for diagnostics

A text between double quotes in which every character can be seen: the usual escapes, and the
code point in braces for a character that has no shape of its own.  An apostrophe stands as it
is, since the quotes are double.
-/
import RegionalDial.Text.Unprintable

namespace RegionalDial
namespace Text
namespace Quoted

/-- The digits of a number in base 16, lower case and without leading zeros. -/
def hexDigits (n : Nat) : List Char := Nat.toDigits 16 n

/-- How one character is written. -/
def escape (c : Char) : List Char :=
  if c = '"' then ['\\', '"']
  else if c = '\\' then ['\\', '\\']
  else if c = '\n' then ['\\', 'n']
  else if c = '\r' then ['\\', 'r']
  else if c = '\t' then ['\\', 't']
  else if c.toNat = 0 then ['\\', '0']
  else if ' ' ≤ c ∧ c ≤ '~' then [c]
  else if Unprintable.isUnprintable c || Unprintable.isExtender c then
    ['\\', 'u', '\x7b'] ++ hexDigits c.toNat ++ ['\x7d']
  else [c]

/-- The text in double quotes. -/
def quote (s : String) : String := String.ofList ('"' :: s.toList.flatMap escape ++ ['"'])

example : quote "it's \"so\"\n" = "\"it's \\\"so\\\"\\n\"" := by decide

end Quoted
end Text
end RegionalDial
