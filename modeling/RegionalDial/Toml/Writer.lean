/-
# Texts as they are written

A text is written in the plainest of the ways that hold it: between double quotes, between single
quotes, between three of either, and only then with escapes.  Three quotes are used where a line
ends inside the text; their opening is then followed by a line end of its own.
-/
import RegionalDial.Toml.Text

namespace RegionalDial
namespace Toml
namespace Writer

/-! ## 1. What a text holds -/

/-- Does the text hold three of this character in a row? -/
def holdsThree (quote : Char) : List Char → Bool
  | a :: b :: c :: rest =>
    (a = quote && b = quote && c = quote) || holdsThree quote (b :: c :: rest)
  | _ => false

/-- No character but those that stand for themselves, tabs among them. -/
def isPlain (cs : List Char) : Bool := cs.all isPrintable

/-- As `isPlain`, line feeds apart. -/
def isPlainLines (cs : List Char) : Bool := cs.all fun c => isPrintable c || c = '\n'

/-! ## 2. Ways to write it -/

/-- How a text is written. -/
inductive Style where
  | basic
  | literal
  | basicLines
  | literalLines
deriving DecidableEq, Inhabited

/-- The way in which the text is written. -/
def style (cs : List Char) : Style :=
  if isPlain cs && !cs.contains '"' && !cs.contains '\\' then .basic
  else if isPlain cs && !cs.contains '\'' then .literal
  else if isPlainLines cs && !cs.contains '\\' && !holdsThree '"' cs then .basicLines
  else if isPlainLines cs && !holdsThree '\'' cs then .literalLines
  else if cs.contains '\n' then .basicLines
  else .basic

/-- A hexadecimal digit in upper case. -/
def hexDigit (n : Nat) : Char :=
  if n < 10 then Char.ofNat ('0'.toNat + n) else Char.ofNat ('A'.toNat + (n - 10))

/-- A control character by its code point. -/
def codePoint (c : Char) : List Char :=
  ['\\', 'u', '0', '0', hexDigit (c.toNat / 16), hexDigit (c.toNat % 16)]

/-- A character between double quotes that is neither a quote nor a line feed. -/
def escape (c : Char) : List Char :=
  if c = '\\' then ['\\', '\\']
  else if c = '\t' then ['\\', 't']
  else if c = '\x08' then ['\\', 'b']
  else if c = '\x0c' then ['\\', 'f']
  else if c = '\r' then ['\\', 'r']
  else if isPrintable c then [c]
  else codePoint c

/-- The characters between double quotes on one line. -/
def basicBody (cs : List Char) : List Char :=
  cs.flatMap fun c =>
    if c = '"' then ['\\', '"'] else if c = '\n' then ['\\', 'n'] else escape c

/-- The characters between three double quotes, `run` quotes in a row before them.  Every third
quote in a row is escaped. -/
def basicLinesBody (run : Nat) : List Char → List Char
  | [] => []
  | c :: rest =>
    if c = '"' then
      if run = 2 then '\\' :: '"' :: basicLinesBody 0 rest else '"' :: basicLinesBody (run + 1) rest
    else (if c = '\n' then ['\n'] else escape c) ++ basicLinesBody 0 rest

/-- A line end behind the opening quotes of a text that holds one. -/
def opening (cs : List Char) : List Char := if cs.contains '\n' then ['\n'] else []

/-- The text between its quotes. -/
def quoted (cs : List Char) : List Char :=
  match style cs with
  | .basic => '"' :: basicBody cs ++ ['"']
  | .literal => '\'' :: cs ++ ['\'']
  | .basicLines => ['"', '"', '"'] ++ opening cs ++ basicLinesBody 0 cs ++ ['"', '"', '"']
  | .literalLines => ['\'', '\'', '\''] ++ opening cs ++ cs ++ ['\'', '\'', '\'']

end Writer
end Toml
end RegionalDial
