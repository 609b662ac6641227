/-
# Texts in a TOML document

A text stands between one or three quotes of either kind.  Between double quotes a backslash
starts an escape; between single quotes nothing does.  Between three quotes a line may end: such a
line end reads as a line feed, one right after the opening quotes is dropped, and a backslash at
the end of a line drops that end and all blanks after it.

Each reader starts behind the opening quotes and returns the text and what follows the closing
ones.  A text between three quotes may end with one or two quotes of its own, which stand right
before the closing ones.
-/

namespace RegionalDial
namespace Toml

/-! ## 1. Characters -/

/-- A tab, or any character that is not a control character. -/
def isPrintable (c : Char) : Bool := c = '\t' || (0x20 ≤ c.toNat && c.toNat ≠ 0x7F)

/-- A space or a tab. -/
def isSpace (c : Char) : Bool := c = ' ' || c = '\t'

/-- The number a hexadecimal digit stands for. -/
def hexValue? (c : Char) : Option Nat :=
  if '0' ≤ c ∧ c ≤ '9' then some (c.toNat - '0'.toNat)
  else if 'a' ≤ c ∧ c ≤ 'f' then some (c.toNat - 'a'.toNat + 10)
  else if 'A' ≤ c ∧ c ≤ 'F' then some (c.toNat - 'A'.toNat + 10)
  else none

/-- The character with this code point. -/
def scalar? (n : Nat) : Option Char := if n.isValidChar then some (Char.ofNat n) else none

/-- What a letter after a backslash stands for. -/
def escaped? (c : Char) : Option Char :=
  if c = 'b' then some '\x08'
  else if c = 't' then some '\t'
  else if c = 'n' then some '\n'
  else if c = 'f' then some '\x0c'
  else if c = 'r' then some '\r'
  else if c = '"' then some '"'
  else if c = '\\' then some '\\'
  else none

/-- How many digits of a code point follow this letter after a backslash. -/
def codeLength? (c : Char) : Option Nat :=
  if c = 'u' then some 4 else if c = 'U' then some 8 else none

/-! ## 2. Between single quotes -/

/-- A text on one line. -/
def readLiteral : List Char → Option (List Char × List Char)
  | [] => none
  | c :: rest =>
    if c = '\'' then some ([], rest)
    else if isPrintable c then (readLiteral rest).map fun (cs, rest) => (c :: cs, rest)
    else none

/-- The quotes of a text that stand before the closing ones, when three were seen. -/
def closing (quote : Char) (rest : List Char) : List Char × List Char :=
  match rest with
  | a :: b :: more =>
    if a = quote then if b = quote then ([quote, quote], more) else ([quote], b :: more)
    else ([], rest)
  | [a] => if a = quote then ([quote], []) else ([], rest)
  | [] => ([], [])

/-- A text on several lines. -/
def readLiteralLines : List Char → Option (List Char × List Char)
  | '\'' :: '\'' :: '\'' :: rest => some (closing '\'' rest)
  | '\r' :: '\n' :: rest => (readLiteralLines rest).map fun (cs, rest) => ('\n' :: cs, rest)
  | c :: rest =>
    if isPrintable c || c = '\n' then
      (readLiteralLines rest).map fun (cs, rest) => (c :: cs, rest)
    else none
  | [] => none

/-! ## 3. Between double quotes -/

/-- Where a reader stands between double quotes. -/
inductive Place where
  | plain
  /-- Behind a backslash. -/
  | escape
  /-- Inside the digits of a code point: how many are still to come after the next one, and the
  number so far. -/
  | code (left : Nat) (value : Nat)
  /-- Behind a backslash and blanks, before the end of the line. -/
  | lineEnd
  /-- Behind a line end that is dropped; the blanks here are dropped too. -/
  | lineStart
deriving DecidableEq, Inhabited

/-- A text on one line. -/
def readBasic : Place → List Char → Option (List Char × List Char)
  | _, [] => none
  | .escape, c :: rest =>
    match escaped? c with
    | some e => (readBasic .plain rest).map fun (cs, rest) => (e :: cs, rest)
    | none =>
      match codeLength? c with
      | some n => readBasic (.code (n - 1) 0) rest
      | none => none
  | .code left value, c :: rest =>
    match hexValue? c with
    | none => none
    | some digit =>
      match left with
      | 0 =>
        match scalar? (value * 16 + digit) with
        | some e => (readBasic .plain rest).map fun (cs, rest) => (e :: cs, rest)
        | none => none
      | left + 1 => readBasic (.code left (value * 16 + digit)) rest
  | _, c :: rest =>
    if c = '"' then some ([], rest)
    else if c = '\\' then readBasic .escape rest
    else if isPrintable c then (readBasic .plain rest).map fun (cs, rest) => (c :: cs, rest)
    else none

/-- A text on several lines. -/
def readBasicLines : Place → List Char → Option (List Char × List Char)
  | _, [] => none
  | .escape, '\r' :: '\n' :: rest => readBasicLines .lineStart rest
  | .lineEnd, '\r' :: '\n' :: rest => readBasicLines .lineStart rest
  | .lineStart, '\r' :: '\n' :: rest => readBasicLines .lineStart rest
  | .plain, '\r' :: '\n' :: rest =>
    (readBasicLines .plain rest).map fun (cs, rest) => ('\n' :: cs, rest)
  | .plain, '"' :: '"' :: '"' :: rest => some (closing '"' rest)
  | .lineStart, '"' :: '"' :: '"' :: rest => some (closing '"' rest)
  | .escape, c :: rest =>
    if isSpace c then readBasicLines .lineEnd rest
    else if c = '\n' then readBasicLines .lineStart rest
    else
      match escaped? c with
      | some e => (readBasicLines .plain rest).map fun (cs, rest) => (e :: cs, rest)
      | none =>
        match codeLength? c with
        | some n => readBasicLines (.code (n - 1) 0) rest
        | none => none
  | .code left value, c :: rest =>
    match hexValue? c with
    | none => none
    | some digit =>
      match left with
      | 0 =>
        match scalar? (value * 16 + digit) with
        | some e => (readBasicLines .plain rest).map fun (cs, rest) => (e :: cs, rest)
        | none => none
      | left + 1 => readBasicLines (.code left (value * 16 + digit)) rest
  | .lineEnd, c :: rest =>
    if isSpace c then readBasicLines .lineEnd rest
    else if c = '\n' then readBasicLines .lineStart rest
    else none
  | place, c :: rest =>
    if place = .lineStart && (isSpace c || c = '\n') then readBasicLines .lineStart rest
    else if c = '\\' then readBasicLines .escape rest
    else if isPrintable c || c = '\n' then
      (readBasicLines .plain rest).map fun (cs, rest) => (c :: cs, rest)
    else none

/-! ## 4. A text of any kind -/

/-- Drops a line end that follows the opening quotes. -/
def dropLineEnd : List Char → List Char
  | '\n' :: rest => rest
  | '\r' :: '\n' :: rest => rest
  | rest => rest

/-- A text on one line, with its opening quote. -/
def readLineText (cs : List Char) : Option (List Char × List Char) :=
  match cs with
  | '"' :: rest => readBasic .plain rest
  | '\'' :: rest => readLiteral rest
  | _ => none

/-- A text with its opening quotes. -/
def readText (cs : List Char) : Option (List Char × List Char) :=
  match cs with
  | '"' :: '"' :: '"' :: rest => readBasicLines .plain (dropLineEnd rest)
  | '\'' :: '\'' :: '\'' :: rest => readLiteralLines (dropLineEnd rest)
  | _ => readLineText cs

end Toml
end RegionalDial
