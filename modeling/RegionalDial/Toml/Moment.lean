/-
# Dates and times in a TOML document

A date, a time of day, or both with a `T` or a space between them and perhaps an offset.  A day
has to be in its month, and a minute may have a sixty-first second.  No value is kept.
-/
import RegionalDial.Toml.Text

namespace RegionalDial
namespace Toml

/-- Reads a number of exactly this many digits that is in the range. -/
def readFixed (count low high : Nat) (cs : List Char) : Option (Nat × List Char) :=
  let digits := cs.take count
  let n := digits.foldl (fun n c => n * 10 + (c.toNat - '0'.toNat)) 0
  if digits.length = count && digits.all Char.isDigit && low ≤ n && n ≤ high then
    some (n, cs.drop count)
  else none

/-- What follows this character. -/
def readChar (c : Char) : List Char → Option (List Char)
  | c' :: rest => if c = c' then some rest else none
  | [] => none

def isLeapYear (year : Nat) : Bool := (year % 4 = 0 && year % 100 ≠ 0) || year % 400 = 0

def daysInMonth (year month : Nat) : Nat :=
  if month = 2 then if isLeapYear year then 29 else 28
  else if month = 4 || month = 6 || month = 9 || month = 11 then 30
  else 31

/-- What follows a date. -/
def readDate (cs : List Char) : Option (List Char) := do
  let (year, cs) ← readFixed 4 0 9999 cs
  let cs ← readChar '-' cs
  let (month, cs) ← readFixed 2 1 12 cs
  let cs ← readChar '-' cs
  let (_, cs) ← readFixed 2 1 (daysInMonth year month) cs
  return cs

/-- What follows the digits after a second, if a point and a digit stand there. -/
def dropSecondFraction (cs : List Char) : List Char :=
  match cs with
  | '.' :: c :: rest => if c.isDigit then rest.dropWhile Char.isDigit else cs
  | _ => cs

/-- What follows a time of day. -/
def readTime (cs : List Char) : Option (List Char) := do
  let (_, cs) ← readFixed 2 0 23 cs
  let cs ← readChar ':' cs
  let (_, cs) ← readFixed 2 0 59 cs
  let cs ← readChar ':' cs
  let (_, cs) ← readFixed 2 0 60 cs
  return dropSecondFraction cs

/-- What follows an offset from universal time. -/
def readOffset (cs : List Char) : Option (List Char) :=
  match cs with
  | [] => none
  | c :: rest =>
    if c = 'Z' || c = 'z' then some rest
    else if c = '+' || c = '-' then do
      let (_, cs) ← readFixed 2 0 23 rest
      let cs ← readChar ':' cs
      let (_, cs) ← readFixed 2 0 59 cs
      return cs
    else none

/-- What follows the time after a date, or the date alone. -/
def dropTimeOfDay (cs : List Char) : List Char :=
  match cs with
  | c :: rest =>
    if c = 'T' || c = 't' || c = ' ' then
      match readTime rest with
      | none => cs
      | some rest => (readOffset rest).getD rest
    else cs
  | [] => []

/-- What follows a date, a time of day or both. -/
def readMoment (cs : List Char) : Option (List Char) :=
  match readDate cs with
  | some rest => some (dropTimeOfDay rest)
  | none => readTime cs

end Toml
end RegionalDial
