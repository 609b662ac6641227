/-
# JSON texts

What a JSON text says: `Json.read?` follows the grammar of JSON for every value, so that what is
written elsewhere can be said to be JSON, and to say this or that.  Blanks may stand around every
part.  A number is kept as it is written, and the members of an object stay in order, also where
two have one name.

A text is read character by character.  A character outside the first plane may be written as two
escapes, each for one half of a pair, and half a pair stands for nothing.
-/
import RegionalDial.Report
import RegionalDial.Toml.Text

namespace RegionalDial

/-- What a JSON text says. -/
inductive Json where
  | null
  | bool (value : Bool)
  /-- A number, as it is written. -/
  | number (literal : String)
  | string (value : String)
  | array (items : List Json)
  | object (members : List (String × Json))
deriving Inhabited

namespace Json

/-! ## 1. Texts -/

/-- What a letter behind a backslash stands for. -/
def escaped? (c : Char) : Option Char := if c = '/' then some '/' else Toml.escaped? c

/-- Is the number the first half of a pair? -/
def isHigh (code : Nat) : Bool := 0xD800 ≤ code && code < 0xDC00

/-- Is the number the second half of a pair? -/
def isLow (code : Nat) : Bool := 0xDC00 ≤ code && code < 0xE000

/-- The character that a pair stands for. -/
def ofPair (high low : Nat) : Char :=
  Char.ofNat (0x10000 + (high - 0xD800) * 0x400 + (low - 0xDC00))

/-- Where a reader stands in a text. -/
inductive Place where
  | plain
  /-- Behind a backslash. -/
  | escape
  /-- Inside the digits of a number: the first half of a pair if it was read before, how many digits
  are still to come after the next one, and the number so far. -/
  | code (high? : Option Nat) (left : Nat) (value : Nat)
  /-- Behind the first half of a pair, where a backslash has to stand. -/
  | half (high : Nat)
  /-- Behind this backslash, where digits have to follow. -/
  | halfEscape (high : Nat)
deriving DecidableEq, Inhabited

/-- Reads a text behind its opening quote. -/
def readText : Place → List Char → Option (List Char × List Char)
  | _, [] => none
  | .plain, c :: rest =>
    if c = '"' then some ([], rest)
    else if c = '\\' then readText .escape rest
    else if c.toNat < 0x20 then none
    else (readText .plain rest).map fun (cs, rest) => (c :: cs, rest)
  | .escape, c :: rest =>
    if c = 'u' then readText (.code none 3 0) rest
    else
      match escaped? c with
      | some e => (readText .plain rest).map fun (cs, rest) => (e :: cs, rest)
      | none => none
  | .code high? left value, c :: rest =>
    match Toml.hexValue? c with
    | none => none
    | some digit =>
      match left, high? with
      | left + 1, _ => readText (.code high? left (value * 16 + digit)) rest
      | 0, some high =>
        if isLow (value * 16 + digit) then
          let e := ofPair high (value * 16 + digit)
          (readText .plain rest).map fun (cs, rest) => (e :: cs, rest)
        else none
      | 0, none =>
        if isHigh (value * 16 + digit) then readText (.half (value * 16 + digit)) rest
        else
          match Toml.scalar? (value * 16 + digit) with
          | some e => (readText .plain rest).map fun (cs, rest) => (e :: cs, rest)
          | none => none
  | .half high, c :: rest => if c = '\\' then readText (.halfEscape high) rest else none
  | .halfEscape high, c :: rest => if c = 'u' then readText (.code (some high) 3 0) rest else none

/-! ## 2. Numbers -/

/-- Digits, at least one. -/
def readDigits (cs : List Char) : Option (List Char × List Char) :=
  match cs.takeWhile Char.isDigit with
  | [] => none
  | digits => some (digits, cs.dropWhile Char.isDigit)

/-- The digits before a point, which do not start with 0 unless they are 0. -/
def readWhole (cs : List Char) : Option (List Char × List Char) :=
  match cs with
  | '0' :: rest => some (['0'], rest)
  | _ => readDigits cs

/-- A point and the digits behind it, if there is one. -/
def readFraction (cs : List Char) : Option (List Char × List Char) :=
  match cs with
  | '.' :: rest => (readDigits rest).map fun (digits, rest) => ('.' :: digits, rest)
  | _ => some ([], cs)

/-- An exponent, if there is one. -/
def readExponent (cs : List Char) : Option (List Char × List Char) :=
  match cs with
  | [] => some ([], [])
  | c :: rest =>
    if c = 'e' || c = 'E' then
      let sign := (rest.take 1).filter fun c => c = '+' || c = '-'
      (readDigits (rest.drop sign.length)).map fun (digits, rest) => (c :: sign ++ digits, rest)
    else some ([], cs)

/-- A number. -/
def readNumber (cs : List Char) : Option (Json × List Char) := do
  let sign := (cs.take 1).filter (· = '-')
  let (whole, cs) ← readWhole (cs.drop sign.length)
  let (fraction, cs) ← readFraction cs
  let (exponent, cs) ← readExponent cs
  some (.number (String.ofList (sign ++ whole ++ fraction ++ exponent)), cs)

/-! ## 3. Values -/

/-- A space, a tab or the end of a line. -/
def isBlank (c : Char) : Bool := c = ' ' || c = '\t' || c = '\n' || c = '\r'

/-- What follows blanks. -/
def dropBlanks (cs : List Char) : List Char := cs.dropWhile isBlank

/-- The items of an array, at least one and at most `count` of them. -/
def readItems (item : List Char → Option (Json × List Char)) :
    Nat → List Char → Option (List Json × List Char)
  | 0, _ => none
  | count + 1, cs =>
    match item (dropBlanks cs) with
    | none => none
    | some (value, rest) =>
      match dropBlanks rest with
      | ',' :: rest => (readItems item count rest).map fun (values, rest) => (value :: values, rest)
      | ']' :: rest => some ([value], rest)
      | _ => none

/-- The name of a member and the colon behind it. -/
def readName (cs : List Char) : Option (String × List Char) :=
  match dropBlanks cs with
  | '"' :: rest =>
    match readText .plain rest with
    | none => none
    | some (name, rest) =>
      match dropBlanks rest with
      | ':' :: rest => some (String.ofList name, rest)
      | _ => none
  | _ => none

/-- The members of an object, at least one and at most `count` of them. -/
def readMembers (item : List Char → Option (Json × List Char)) :
    Nat → List Char → Option (List (String × Json) × List Char)
  | 0, _ => none
  | count + 1, cs =>
    match readName cs with
    | none => none
    | some (name, rest) =>
      match item (dropBlanks rest) with
      | none => none
      | some (value, rest) =>
        match dropBlanks rest with
        | ',' :: rest =>
          (readMembers item count rest).map fun (members, rest) => ((name, value) :: members, rest)
        | '\x7d' :: rest => some ([(name, value)], rest)
        | _ => none

/-- A value, in which arrays and objects stand inside each other less than `depth` times. -/
def readValue : Nat → List Char → Option (Json × List Char)
  | 0, _ => none
  | depth + 1, cs =>
    match cs with
    | '"' :: rest =>
      (readText .plain rest).map fun (cs, rest) => (.string (String.ofList cs), rest)
    | '[' :: rest =>
      match dropBlanks rest with
      | ']' :: rest => some (.array [], rest)
      | _ =>
        (readItems (readValue depth) rest.length rest).map fun (items, rest) => (.array items, rest)
    | '\x7b' :: rest =>
      match dropBlanks rest with
      | '\x7d' :: rest => some (.object [], rest)
      | _ =>
        (readMembers (readValue depth) rest.length rest).map fun (members, rest) =>
          (.object members, rest)
    | 't' :: 'r' :: 'u' :: 'e' :: rest => some (.bool true, rest)
    | 'f' :: 'a' :: 'l' :: 's' :: 'e' :: rest => some (.bool false, rest)
    | 'n' :: 'u' :: 'l' :: 'l' :: rest => some (.null, rest)
    | _ => readNumber cs

/-- What a JSON text says, if it is one.  Arrays and objects cannot stand inside each other more
often than the text has characters. -/
def read? (s : String) : Option Json :=
  match readValue (s.length + 1) (dropBlanks s.toList) with
  | some (value, rest) => if dropBlanks rest = [] then some value else none
  | none => none


/-! ## 4. Reading what is written -/

theorem hexValue?_hexDigit {n : Nat} (h : n < 16) :
    Toml.hexValue? (Report.hexDigit n) = some n := by
  have hall : ∀ n : Fin 16, Toml.hexValue? (Report.hexDigit n) = some n.val := by decide
  exact hall ⟨n, h⟩

/-- A control character is read from its number. -/
theorem readText_code {c : Char} (h : c.toNat < 0x20) (cs : List Char) :
    readText .plain ('\\' :: 'u' :: '0' :: '0' :: Report.hexDigit (c.toNat / 16) ::
        Report.hexDigit (c.toNat % 16) :: cs) =
      (readText .plain cs).map fun (text, rest) => (c :: text, rest) := by
  have hzero : Toml.hexValue? '0' = some 0 := by decide
  have hfirst : Toml.hexValue? (Report.hexDigit (c.toNat / 16)) = some (c.toNat / 16) :=
    hexValue?_hexDigit (by omega)
  have hsecond : Toml.hexValue? (Report.hexDigit (c.toNat % 16)) = some (c.toNat % 16) :=
    hexValue?_hexDigit (by omega)
  have hvalue : ((0 * 16 + 0) * 16 + c.toNat / 16) * 16 + c.toNat % 16 = c.toNat := by omega
  have hhigh : isHigh c.toNat = false := by
    simp only [isHigh, Bool.and_eq_false_iff, decide_eq_false_iff_not]
    omega
  have hscalar : Toml.scalar? c.toNat = some c := by
    have hvalid : c.toNat.isValidChar := c.valid
    rw [Toml.scalar?, if_pos hvalid, Char.ofNat_toNat]
  simp only [readText, hzero, hfirst, hsecond, hhigh, hscalar, hvalue]
  simp

/-- **An escaped character is read as itself.** -/
theorem readText_escape (c : Char) (cs : List Char) :
    readText .plain (Report.escape c ++ cs) =
      (readText .plain cs).map fun (text, rest) => (c :: text, rest) := by
  -- Seven characters have a letter of their own; what is left is a number or the character itself.
  fun_cases Report.escape c with
  | case8 hquote hbackslash _ _ _ _ _ hcontrol => exact readText_code hcontrol cs
  | case9 hquote hbackslash _ _ _ _ _ hplain =>
    rw [List.singleton_append, readText, if_neg hquote, if_neg hbackslash, if_neg hplain]
  | _ =>
    subst_vars
    rfl

theorem readText_flatMap_escape (text rest : List Char) :
    readText .plain (text.flatMap Report.escape ++ '"' :: rest) = some (text, rest) := by
  induction text with
  | nil => rfl
  | cons c text ih =>
    rw [List.flatMap_cons, List.append_assoc, readText_escape, ih]
    rfl

/-- The characters are read as a value, whatever stands behind them, and no blank is before them. -/
structure Reads (item : List Char → Option (Json × List Char)) (written : List Char)
    (value : Json) : Prop where
  starts : ∃ c more, written = c :: more ∧ isBlank c = false
  reads (rest : List Char) : item (written ++ rest) = some (value, rest)

theorem reads_jsonText (depth : Nat) (s : String) :
    Reads (readValue (depth + 1)) (Report.jsonText s) (.string s) where
  starts := ⟨_, _, rfl, rfl⟩
  reads rest := by
    rw [Report.jsonText, List.cons_append, List.cons_append, List.append_assoc,
      List.singleton_append]
    simp only [readValue, readText_flatMap_escape, Option.map_some, String.ofList_toList]

theorem reads_jsonBool (depth : Nat) (b : Bool) :
    Reads (readValue (depth + 1)) (Report.jsonBool b) (.bool b) where
  starts := by cases b <;> exact ⟨_, _, rfl, rfl⟩
  reads rest := by cases b <;> rfl

theorem dropBlanks_cons {c : Char} (h : isBlank c = false) (cs : List Char) :
    dropBlanks (c :: cs) = c :: cs := by
  rw [dropBlanks, List.dropWhile_cons_of_neg (by simp [h])]

theorem dropBlanks_space (cs : List Char) : dropBlanks (' ' :: cs) = dropBlanks cs := rfl

theorem dropBlanks_lineEnd (cs : List Char) : dropBlanks ('\n' :: cs) = dropBlanks cs := rfl

section Members

variable {item : List Char → Option (Json × List Char)} {written : List Char} {value : Json}

theorem Reads.dropBlanks_append (h : Reads item written value) (rest : List Char) :
    dropBlanks (written ++ rest) = written ++ rest := by
  obtain ⟨c, more, rfl, hc⟩ := h.starts
  exact dropBlanks_cons hc _

/-- The name of a member is read up to the colon. -/
theorem readName_jsonText (key : String) (rest : List Char) :
    readName ("  ".toList ++ Report.jsonText key ++ [':', ' '] ++ rest) =
      some (key, ' ' :: rest) := by
  have hstart : dropBlanks ("  ".toList ++ Report.jsonText key ++ [':', ' '] ++ rest) =
      '"' :: (key.toList.flatMap Report.escape ++ '"' :: ':' :: ' ' :: rest) := by
    rw [Report.jsonText]
    simp only [List.append_assoc, List.cons_append, List.nil_append]
    rfl
  rw [readName, hstart]
  simp only [readText_flatMap_escape, dropBlanks_cons (c := ':') rfl, String.ofList_toList]

/-- A member is read with its name and its value, and then what stands behind it decides. -/
theorem readMembers_member {key : String} (h : Reads item written value) (count : Nat)
    (tail : List Char) :
    readMembers item (count + 1)
        ("  ".toList ++ Report.jsonText key ++ [':', ' '] ++ written ++ tail) =
      match dropBlanks tail with
      | ',' :: rest =>
        (readMembers item count rest).map fun (members, rest) => ((key, value) :: members, rest)
      | '\x7d' :: rest => some ([(key, value)], rest)
      | _ => none := by
  rw [List.append_assoc, readMembers, readName_jsonText]
  simp only [dropBlanks_space, h.dropBlanks_append, h.reads]

theorem readMembers_lineEnd (count : Nat) (cs : List Char) :
    readMembers item count ('\n' :: cs) = readMembers item count cs := by
  cases count with
  | zero => rfl
  | succ count => rfl

/-- Texts of members, at least one, each with the name and the value that it is read as. -/
inductive ReadsMembers (item : List Char → Option (Json × List Char)) :
    List (String × List Char) → List (String × Json) → Prop
  | last {key : String} {written : List Char} {value : Json} (h : Reads item written value) :
      ReadsMembers item [(key, written)] [(key, value)]
  | more {key : String} {written : List Char} {value : Json} {texts : List (String × List Char)}
      {members : List (String × Json)} (h : Reads item written value)
      (hmore : ReadsMembers item texts members) :
      ReadsMembers item ((key, written) :: texts) ((key, value) :: members)

variable {texts : List (String × List Char)} {members : List (String × Json)}

theorem ReadsMembers.ne_nil (h : ReadsMembers item texts members) : texts ≠ [] := by
  cases h <;> exact List.cons_ne_nil _ _

/-- **Members that are written are read, in order.** -/
theorem readMembers_writeMembers (h : ReadsMembers item texts members) {count : Nat}
    (hcount : texts.length ≤ count) (rest : List Char) :
    readMembers item count (Report.writeMembers texts ++ '\x7d' :: rest) =
      some (members, rest) := by
  induction h generalizing count with
  | @last key written value h =>
    obtain ⟨count, rfl⟩ : ∃ fewer, count = fewer + 1 := Nat.exists_eq_add_of_le' hcount
    rw [Report.writeMembers, List.append_assoc, readMembers_member h]
    rfl
  | @more key written value texts members h hmore ih =>
    rw [List.length_cons] at hcount
    obtain ⟨count, rfl⟩ : ∃ fewer, count = fewer + 1 :=
      Nat.exists_eq_add_of_le' (Nat.le_of_add_left_le hcount)
    have hrest := ih (Nat.le_of_succ_le_succ hcount)
    have hcomma (cs : List Char) : dropBlanks (',' :: cs) = ',' :: cs := dropBlanks_cons rfl cs
    rw [Report.writeMembers, List.append_assoc, List.append_assoc, readMembers_member h,
      List.cons_append, List.cons_append, List.nil_append, hcomma]
    · simp only [readMembers_lineEnd, hrest, Option.map_some]
    · exact hmore.ne_nil

/-- There are no more members than characters. -/
theorem length_le_writeMembers (texts : List (String × List Char)) :
    texts.length ≤ (Report.writeMembers texts).length := by
  fun_induction Report.writeMembers texts with
  | case1 => exact Nat.zero_le _
  | case2 key value => simp
  | case3 key value rest _ ih =>
    simp only [List.length_append, List.length_cons]
    omega

/-- Members start with a quote, behind blanks. -/
theorem dropBlanks_writeMembers (h : ReadsMembers item texts members) (tail : List Char) :
    ∃ more, dropBlanks (Report.writeMembers texts ++ tail) = '"' :: more := by
  rcases texts with _ | ⟨⟨key, written⟩, _ | ⟨next, more⟩⟩
  · exact absurd rfl h.ne_nil
  · exact ⟨_, rfl⟩
  · exact ⟨_, rfl⟩

/-- **An object is read from its members.** -/
theorem readValue_object {depth : Nat} (h : ReadsMembers (readValue depth) texts members)
    (rest : List Char) :
    readValue (depth + 1) ('\x7b' :: '\n' :: (Report.writeMembers texts ++ '\x7d' :: rest)) =
      some (.object members, rest) := by
  obtain ⟨more, hmore⟩ := dropBlanks_writeMembers h ('\x7d' :: rest)
  have hcount : texts.length ≤
      ('\n' :: (Report.writeMembers texts ++ '\x7d' :: rest)).length := by
    have hlength := length_le_writeMembers texts
    simp only [List.length_cons, List.length_append]
    omega
  have hread := readMembers_writeMembers h hcount rest
  simp only [readValue, dropBlanks_lineEnd, hmore, readMembers_lineEnd, hread, Option.map_some]
  rfl

end Members

end Json
end RegionalDial
