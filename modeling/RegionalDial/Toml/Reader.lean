/-
# Reading a TOML document

A document is a list of statements, one on a line: a key with its value, the header of a table,
or the header of one more element of an array of tables.  Reading gives the statements; what they
build is decided elsewhere.
-/
import RegionalDial.Toml.Moment
import RegionalDial.Toml.Number
import RegionalDial.Toml.Value

namespace RegionalDial
namespace Toml

/-! ## 1. Blanks -/

/-- What follows spaces and tabs. -/
def dropSpaces (cs : List Char) : List Char := cs.dropWhile isSpace

/-- What follows a comment, if one starts here. -/
def dropComment (cs : List Char) : List Char :=
  match cs with
  | '#' :: rest => rest.dropWhile isPrintable
  | _ => cs

/-- What follows the end of a line; the end of the document is one. -/
def readLineEnd : List Char → Option (List Char)
  | [] => some []
  | '\n' :: rest => some rest
  | '\r' :: '\n' :: rest => some rest
  | _ => none

/-- What follows the rest of a line that may hold a comment and nothing else. -/
def readRestOfLine (cs : List Char) : Option (List Char) :=
  readLineEnd (dropComment (dropSpaces cs))

/-- What follows blanks, line ends and comments inside an array. -/
def dropBlanks (inComment : Bool) : List Char → Option (List Char)
  | [] => if inComment then none else some []
  | '\r' :: '\n' :: rest => dropBlanks false rest
  | c :: rest =>
    if c = '\n' then dropBlanks false rest
    else if inComment then if isPrintable c then dropBlanks true rest else none
    else if isSpace c then dropBlanks false rest
    else if c = '#' then dropBlanks true rest
    else if c = '\r' then none
    else some (c :: rest)

/-! ## 2. Keys -/

/-- A letter, a digit, `-` or `_`. -/
def isBareChar (c : Char) : Bool := c.isAlphanum || c = '-' || c = '_'

/-- One part of a key. -/
def readKeyPart (cs : List Char) : Option (String × List Char) :=
  match cs with
  | [] => none
  | c :: _ =>
    if c = '"' || c = '\'' then
      (readLineText cs).map fun (part, rest) => (String.ofList part, rest)
    else if isBareChar c then
      some (String.ofList (cs.takeWhile isBareChar), cs.dropWhile isBareChar)
    else none

/-- The parts of a key, at most `fuel` of them, with points between them and spaces around. -/
def readKeyParts : Nat → List Char → Option (List String × List Char)
  | 0, _ => none
  | fuel + 1, cs =>
    match readKeyPart (dropSpaces cs) with
    | none => none
    | some (part, rest) =>
      match dropSpaces rest with
      | '.' :: rest => (readKeyParts fuel rest).map fun (parts, rest) => (part :: parts, rest)
      | rest => some ([part], rest)

/-- The most parts a key may have. -/
def longestKey : Nat := 79

/-- A key: all its parts but the last one, and that one. -/
def readKey (cs : List Char) : Option ((List String × String) × List Char) :=
  match readKeyParts longestKey cs with
  | none => none
  | some (parts, rest) =>
    match parts.getLast? with
    | none => none
    | some last => some ((parts.dropLast, last), rest)

/-! ## 3. Values -/

/-- The items of an array behind its bracket, at most `fuel` of them. -/
def readItems (item : List Char → Option (Value × List Char)) :
    Nat → List Char → Option (List Value × List Char)
  | 0, _ => none
  | fuel + 1, cs =>
    match dropBlanks false cs with
    | some (']' :: rest) => some ([], rest)
    | some cs =>
      match item cs with
      | none => none
      | some (value, rest) =>
        match dropBlanks false rest with
        | some (',' :: rest) =>
          (readItems item fuel rest).map fun (values, rest) => (value :: values, rest)
        | some (']' :: rest) => some ([value], rest)
        | _ => none
    | none => none

/-- A key with its value, as one of the pairs in braces. -/
def readPair (item : List Char → Option (Value × List Char)) (cs : List Char) :
    Option (((List String × String) × Value) × List Char) :=
  match readKey cs with
  | some (key, '=' :: rest) =>
    (item (dropSpaces rest)).map fun (value, rest) => ((key, value), dropSpaces rest)
  | _ => none

/-- The pairs of a table in braces, at least one and at most `fuel` of them. -/
def readPairs (item : List Char → Option (Value × List Char)) :
    Nat → List Char → Option (List ((List String × String) × Value) × List Char)
  | 0, _ => none
  | fuel + 1, cs =>
    match readPair item cs with
    | some (pair, ',' :: rest) =>
      (readPairs item fuel rest).map fun (pairs, rest) => (pair :: pairs, rest)
    | some (pair, '\x7d' :: rest) => some ([pair], rest)
    | _ => none

/-- Adds a pair to the table in braces. -/
def putPair (entries : Entries) (pair : (List String × String) × Value) : Option Entries :=
  Entries.put .braces entries pair.1.1 pair.1.2 pair.2

/-- The table that pairs make up. -/
def tableOfPairs? (pairs : List ((List String × String) × Value)) : Option Value :=
  (pairs.foldlM putPair []).map (Value.table .braces)

/-- What follows a word for a truth value. -/
def readTruth : List Char → Option (List Char)
  | 't' :: 'r' :: 'u' :: 'e' :: rest => some rest
  | 'f' :: 'a' :: 'l' :: 's' :: 'e' :: rest => some rest
  | _ => none

/-- A value that starts with a sign, a digit or a letter. -/
def readAtom (cs : List Char) : Option (Value × List Char) :=
  match readMoment cs with
  | some rest => some (.moment, rest)
  | none =>
    match readFloat cs with
    | some rest => some (.plain, rest)
    | none =>
      match readInteger cs with
      | some rest => some (.plain, rest)
      | none => (readTruth cs).map fun rest => (.plain, rest)

/-- A value in which arrays and braces nest at most this deep. -/
def readValue : Nat → List Char → Option (Value × List Char)
  | _, [] => none
  | nesting, c :: rest =>
    if c = '"' || c = '\'' then
      (readText (c :: rest)).map fun (cs, rest) => (.text (String.ofList cs), rest)
    else if c = '[' then
      match nesting with
      | 0 => none
      | nesting + 1 =>
        (readItems (readValue nesting) (rest.length + 1) rest).map fun (items, rest) =>
          (.array items, rest)
    else if c = '\x7b' then
      match nesting with
      | 0 => none
      | nesting + 1 =>
        match dropSpaces rest with
        | '\x7d' :: rest => some (.table .braces [], rest)
        | rest =>
          match readPairs (readValue nesting) (rest.length + 1) rest with
          | none => none
          | some (pairs, rest) => (tableOfPairs? pairs).map fun table => (table, rest)
    else readAtom (c :: rest)

/-- How deep arrays and braces may nest. -/
def deepestValue : Nat := 79

/-! ## 4. Statements -/

/-- A line of a document. -/
inductive Statement where
  | pair (path : List String) (key : String) (value : Value)
  | header (path : List String) (key : String)
  | element (path : List String) (key : String)

/-- A header behind its bracket, and the rest of its line. -/
def readHeader (make : List String → String → Statement) (close : List Char) (cs : List Char) :
    Option (Statement × List Char) :=
  match readKey cs with
  | none => none
  | some ((path, key), rest) =>
    if close.isPrefixOf rest then
      (readRestOfLine (rest.drop close.length)).map fun rest => (make path key, rest)
    else none

/-- A key with its value, and the rest of its line. -/
def readAssignment (cs : List Char) : Option (Statement × List Char) :=
  match readPair (readValue deepestValue) cs with
  | none => none
  | some (((path, key), value), rest) =>
    (readRestOfLine rest).map fun rest => (.pair path key value, rest)

/-- A statement and the rest of its line. -/
def readStatement (cs : List Char) : Option (Statement × List Char) :=
  match cs with
  | '[' :: '[' :: rest => readHeader .element [']', ']'] rest
  | '[' :: rest => readHeader .header [']'] rest
  | _ => readAssignment cs

/-- The statements of a document, of at most `fuel` lines. -/
def readStatements : Nat → List Char → Option (List Statement)
  | 0, _ => none
  | fuel + 1, cs =>
    match dropSpaces cs with
    | [] => some []
    | c :: rest =>
      if c = '#' || c = '\n' || c = '\r' then
        match readLineEnd (dropComment (c :: rest)) with
        | none => none
        | some rest => readStatements fuel rest
      else
        match readStatement (c :: rest) with
        | none => none
        | some (statement, rest) => (readStatements fuel rest).map (statement :: ·)

/-- The mark that may stand at the start of a document. -/
def byteOrderMark : Char := Char.ofNat 0xFEFF

/-- The statements of a document. -/
def statements? (document : String) : Option (List Statement) :=
  let cs := match document.toList with
    | c :: rest => if c = byteOrderMark then rest else c :: rest
    | [] => []
  readStatements (cs.length + 1) cs

end Toml
end RegionalDial
