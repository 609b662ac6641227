/-
# Numbers in a TOML document

Integers in base 10, 16, 8 and 2 that fit in 64 bits with a sign, floats, and the words for
infinity and for no number.  An underscore may stand between two digits.  No value is kept: what
matters is where a number ends and whether it is in range.
-/
import RegionalDial.Toml.Text

namespace RegionalDial
namespace Toml

/-! ## 1. Digits -/

/-- The value of a digit below the base. -/
def digitValue? (base : Nat) (c : Char) : Option Nat := (hexValue? c).filter (· < base)

/-- Reads digits after the first one, with single underscores between them. -/
def readMoreDigits (base : Nat) : List Char → List Nat × List Char
  | [] => ([], [])
  | c :: rest =>
    match digitValue? base c with
    | some d =>
      let (ds, rest) := readMoreDigits base rest
      (d :: ds, rest)
    | none =>
      if c = '_' then
        match rest with
        | [] => ([], [c])
        | c' :: rest' =>
          match digitValue? base c' with
          | some d =>
            let (ds, rest) := readMoreDigits base rest'
            (d :: ds, rest)
          | none => ([], c :: rest)
      else ([], c :: rest)

/-- Reads one or more digits. -/
def readDigits (base : Nat) : List Char → Option (List Nat × List Char)
  | [] => none
  | c :: rest =>
    match digitValue? base c with
    | none => none
    | some d =>
      let (ds, rest) := readMoreDigits base rest
      some (d :: ds, rest)

/-- Reads the digits of a decimal number, which does not start with 0 unless it is 0. -/
def readDecimal (cs : List Char) : Option (List Nat × List Char) :=
  match cs with
  | '0' :: rest => some ([0], rest)
  | _ => readDigits 10 cs

/-- The number with these digits. -/
def ofDigits (base : Nat) (digits : List Nat) : Nat := digits.foldl (fun n d => n * base + d) 0

/-- Reads a sign, if there is one: is it a minus? -/
def readSign : List Char → Bool × List Char
  | '-' :: rest => (true, rest)
  | '+' :: rest => (false, rest)
  | cs => (false, cs)

/-! ## 2. Integers -/

/-- The base that a number names at its start. -/
def base? : List Char → Option (Nat × List Char)
  | '0' :: 'x' :: rest => some (16, rest)
  | '0' :: 'o' :: rest => some (8, rest)
  | '0' :: 'b' :: rest => some (2, rest)
  | _ => none

/-- What follows an integer. -/
def readInteger (cs : List Char) : Option (List Char) :=
  match base? cs with
  | some (base, cs) =>
    match readDigits base cs with
    | some (digits, rest) => if ofDigits base digits < Nat.pow 2 63 then some rest else none
    | none => none
  | none =>
    let (negative, cs) := readSign cs
    match readDecimal cs with
    | some (digits, rest) =>
      if ofDigits 10 digits < Nat.pow 2 63 + (if negative then 1 else 0) then some rest else none
    | none => none

/-! ## 3. Floats -/

/-- The least number that no float is near to: half a step above the greatest float. -/
def floatLimit : Nat := Nat.pow 2 1024 - Nat.pow 2 970

/-- Is `digits * 10 ^ exponent` beyond the floats? -/
def overflows (digits : List Nat) (exponent : Int) : Bool :=
  let digits := digits.dropWhile (· = 0)
  let size : Int := digits.length + exponent
  if digits = [] then false
  else if 309 < size then true
  else if size < 309 then false
  else if 0 ≤ exponent then floatLimit ≤ ofDigits 10 digits * Nat.pow 10 exponent.toNat
  else floatLimit * Nat.pow 10 (-exponent).toNat ≤ ofDigits 10 digits

/-- Reads the part of a float after `e`. -/
def readExponent : List Char → Option (Int × List Char)
  | c :: rest =>
    if c = 'e' || c = 'E' then
      let (negative, rest) := readSign rest
      match readDigits 10 rest with
      | some (digits, rest) =>
        let n : Int := ofDigits 10 digits
        some (if negative then -n else n, rest)
      | none => none
    else none
  | [] => none

/-- Reads the digits after a point. -/
def readFraction : List Char → Option (List Nat × List Char)
  | '.' :: rest => readDigits 10 rest
  | _ => none

/-- What follows the word for infinity or for no number. -/
def readFloatWord : List Char → Option (List Char)
  | 'i' :: 'n' :: 'f' :: rest => some rest
  | 'n' :: 'a' :: 'n' :: rest => some rest
  | _ => none

/-- What follows a float: a decimal number with a fraction, an exponent or both, or a word. -/
def readFloat (cs : List Char) : Option (List Char) :=
  let (negative, cs) := readSign cs
  let inRange (digits : List Nat) (exponent : Int) (rest : List Char) : Option (List Char) :=
    if !negative && overflows digits exponent then none else some rest
  match readDecimal cs with
  | none => readFloatWord cs
  | some (whole, rest) =>
    match readExponent rest with
    | some (exponent, rest) => inRange whole exponent rest
    | none =>
      match readFraction rest with
      | none => none
      | some (fraction, rest) =>
        match readExponent rest with
        | some (exponent, rest) => inRange (whole ++ fraction) (exponent - fraction.length) rest
        | none => inRange (whole ++ fraction) (-fraction.length) rest

end Toml
end RegionalDial
