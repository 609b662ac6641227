/-
# Bundles that are written out

A certificate is written as an opening line, its base 64 text on any number of lines and a closing
line.  Before, between and after the certificates there may be other lines, and a line may end in
any of three ways.  However a bundle is written, what is read from it is what was written.

* **Line ends.**  A line end is a blank to the base 64 text, and it is left out of account where
  a label ends.  So a reader does with a line what it does with the line without its end
  (`readLines_concat`), an empty line does nothing (`readLines_empty`), and the bytes of a bundle
  are read like the texts of its lines (`read_of_holdsLines`).
* **Base 64.**  The text of a certificate holds no dash, so none of its lines opens or closes a
  section, and put together again the lines stand for the bytes they were made of
  (`decode?_encode`).
-/
import RegionalDial.Proofs.Sections

namespace RegionalDial
namespace Base64

/-! ## 1. Symbols -/

/-- A symbol is neither padding nor a dash. -/
theorem symbol_ne {n : Nat} (h : n < 64) : symbol n ≠ pad ∧ symbol n ≠ 0x2D := by
  revert n
  decide

/-- Four symbols are three bytes, whatever follows. -/
theorem decodeSymbols_group {i j k l : Nat} (hi : i < 64) (hj : j < 64) (hk : k < 64) (hl : l < 64)
    (rest : List UInt8) :
    decodeSymbols (symbol i :: symbol j :: symbol k :: symbol l :: rest) =
      (decodeSymbols rest).map fun bytes => one i j :: two j k :: three k l :: bytes := by
  cases rest with
  | nil => simp [decodeSymbols, value?_symbol, hi, hj, hk, hl, (symbol_ne hl).1]
  | cons next more =>
    rw [decodeSymbols]
    · simp only [value?_symbol hi, value?_symbol hj, value?_symbol hk, value?_symbol hl]
      cases decodeSymbols (next :: more) <;> rfl
    · simp

theorem one_eq {byte : UInt8} {i j : Nat} (h : i * 4 + j / 16 = byte.toNat) : one i j = byte := by
  rw [one, h, UInt8.ofNat_toNat]

theorem two_eq {byte : UInt8} {j k : Nat} (h : j % 16 * 16 + k / 4 = byte.toNat) :
    two j k = byte := by
  rw [two, h, UInt8.ofNat_toNat]

theorem three_eq {byte : UInt8} {k l : Nat} (h : k % 4 * 64 + l = byte.toNat) :
    three k l = byte := by
  rw [three, h, UInt8.ofNat_toNat]

/-- **Symbols are read as the bytes they were written for**, with padding and without. -/
theorem decodeSymbols_encode (padded : Bool) (bytes : List UInt8) :
    decodeSymbols (encode padded bytes) = some bytes := by
  -- The induction takes three bytes at a time; one or two may be left over.
  induction bytes using encode.induct with
  | case1 => rfl
  | case2 a =>
    have ha := a.toNat_lt
    have h₁ : a.toNat / 4 < 64 := by omega
    have h₂ : a.toNat % 4 * 16 < 64 := by omega
    have hone : one (a.toNat / 4) (a.toNat % 4 * 16) = a := one_eq (by omega)
    cases padded <;> simp [encode, decodeSymbols, value?_symbol, h₁, h₂, hone]
  | case3 a b =>
    have ha := a.toNat_lt
    have hb := b.toNat_lt
    have h₁ : a.toNat / 4 < 64 := by omega
    have h₂ : a.toNat % 4 * 16 + b.toNat / 16 < 64 := by omega
    have h₃ : b.toNat % 16 * 4 < 64 := by omega
    have hone : one (a.toNat / 4) (a.toNat % 4 * 16 + b.toNat / 16) = a := one_eq (by omega)
    have htwo : two (a.toNat % 4 * 16 + b.toNat / 16) (b.toNat % 16 * 4) = b := two_eq (by omega)
    cases padded <;>
      simp [encode, decodeSymbols, value?_symbol, h₁, h₂, h₃, hone, htwo, (symbol_ne h₃).1]
  | case4 a b c rest ih =>
    have ha := a.toNat_lt
    have hb := b.toNat_lt
    have hc := c.toNat_lt
    have hone : one (a.toNat / 4) (a.toNat % 4 * 16 + b.toNat / 16) = a := one_eq (by omega)
    have htwo : two (a.toNat % 4 * 16 + b.toNat / 16) (b.toNat % 16 * 4 + c.toNat / 64) = b :=
      two_eq (by omega)
    have hthree : three (b.toNat % 16 * 4 + c.toNat / 64) (c.toNat % 64) = c :=
      three_eq (by omega)
    rw [encode, decodeSymbols_group (by omega) (by omega) (by omega) (by omega), ih,
      Option.map_some, hone, htwo, hthree]

/-- What is written is symbols and padding. -/
theorem mem_encode {padded : Bool} {bytes : List UInt8} {byte : UInt8}
    (h : byte ∈ encode padded bytes) : (∃ n < 64, byte = symbol n) ∨ byte = pad := by
  induction bytes using encode.induct with
  | case1 => exact absurd h (by simp [encode])
  | case2 a =>
    have ha := a.toNat_lt
    simp only [encode, List.cons_append, List.nil_append, List.mem_cons] at h
    rcases h with rfl | rfl | h
    · exact .inl ⟨_, by omega, rfl⟩
    · exact .inl ⟨_, by omega, rfl⟩
    · cases padded with
      | false => exact absurd h (by simp)
      | true => exact .inr (by simpa using h)
  | case3 a b =>
    have ha := a.toNat_lt
    have hb := b.toNat_lt
    simp only [encode, List.cons_append, List.nil_append, List.mem_cons] at h
    rcases h with rfl | rfl | rfl | h
    · exact .inl ⟨_, by omega, rfl⟩
    · exact .inl ⟨_, by omega, rfl⟩
    · exact .inl ⟨_, by omega, rfl⟩
    · cases padded with
      | false => exact absurd h (by simp)
      | true => exact .inr (by simpa using h)
  | case4 a b c rest ih =>
    have ha := a.toNat_lt
    have hb := b.toNat_lt
    have hc := c.toNat_lt
    simp only [encode, List.mem_cons] at h
    rcases h with rfl | rfl | rfl | rfl | h
    · exact .inl ⟨_, by omega, rfl⟩
    · exact .inl ⟨_, by omega, rfl⟩
    · exact .inl ⟨_, by omega, rfl⟩
    · exact .inl ⟨_, by omega, rfl⟩
    · exact ih h

/-- Among what is written there is no blank and no dash. -/
theorem clean_of_mem_encode {padded : Bool} {bytes : List UInt8} {byte : UInt8}
    (h : byte ∈ encode padded bytes) : isBlank byte = false ∧ byte ≠ 0x2D := by
  rcases mem_encode h with ⟨n, hn, rfl⟩ | rfl
  · exact ⟨isBlank_symbol hn, (symbol_ne hn).2⟩
  · decide

theorem decode?_encode (padded : Bool) (bytes : List UInt8) :
    decode? (encode padded bytes) = some bytes := by
  have hblanks : (encode padded bytes).filter (fun c => !isBlank c) = encode padded bytes := by
    refine List.filter_eq_self.mpr fun byte hmem => ?_
    rw [(clean_of_mem_encode hmem).1, Bool.not_false]
  rw [decode?, hblanks, decodeSymbols_encode]

/-- Blanks can be left out before reading. -/
theorem decode?_filter (text : List UInt8) :
    decode? (text.filter fun c => !isBlank c) = decode? text := by
  simp [decode?]

end Base64

namespace Pem

/-! ## 2. Line ends and blanks -/

theorem endsLine_iff {byte : UInt8} : endsLine byte = true ↔ byte = 0x0A ∨ byte = 0x0D := by
  simp [endsLine]

theorem isBlank_of_endsLine {byte : UInt8} (h : endsLine byte = true) :
    Base64.isBlank byte = true := by
  rcases endsLine_iff.mp h with rfl | rfl <;> rfl

/-- What does not end like the line stands at its start when it does so without the end. -/
theorem isPrefixOf_concat {start line : List UInt8} {byte : UInt8}
    (h : start.getLast? ≠ some byte) :
    start.isPrefixOf (line ++ [byte]) = start.isPrefixOf line := by
  rw [Bool.eq_iff_iff, List.isPrefixOf_iff_prefix, List.isPrefixOf_iff_prefix,
    List.prefix_concat_iff]
  refine or_iff_right fun heq => h ?_
  rw [heq, List.getLast?_concat]

theorem getLast?_opening_ne {byte : UInt8} (h : endsLine byte = true) :
    opening.getLast? ≠ some byte := by
  rcases endsLine_iff.mp h with rfl | rfl <;> decide

theorem getLast?_closing_ne {byte : UInt8} (h : endsLine byte = true) (label : List UInt8) :
    (closing label).getLast? ≠ some byte := by
  have hlast : (closing label).getLast? = some 0x2D := by
    rw [closing, List.getLast?_append]
    rfl
  rw [hlast]
  rcases endsLine_iff.mp h with rfl | rfl <;> decide

/-- The label of an opening line is looked for before the line end. -/
theorem openedLabel?_concat {byte : UInt8} (h : endsLine byte = true) (line : List UInt8) :
    openedLabel? (line ++ [byte]) = openedLabel? line := by
  have htrailer : isTrailer byte = true := by
    rcases endsLine_iff.mp h with rfl | rfl <;> rfl
  have hdash : ¬ (byte == 0x2D) = true := by
    rcases endsLine_iff.mp h with rfl | rfl <;> decide
  generalize hof : (line.reverse.takeWhile isTrailer).reverse = trailer
  have hlonger : ((line ++ [byte]).reverse.takeWhile isTrailer).reverse = trailer ++ [byte] := by
    rw [List.reverse_concat, List.takeWhile_cons_of_pos htrailer, List.reverse_cons, hof]
  have hlength : trailer.length ≤ line.length := by
    rw [← hof, List.length_reverse, ← @List.length_reverse _ line]
    exact (List.takeWhile_prefix _).length_le
  have hcount : (trailer ++ [byte]).count 0x2D = trailer.count 0x2D := by
    rw [List.count_append, List.count_singleton, if_neg hdash, Nat.add_zero]
  simp only [openedLabel?, hof, hlonger, hcount]
  split
  · rename_i hfive
    -- There is a dash in the trailer, so the label ends where it did.
    have hmem : (0x2D : UInt8) ∈ trailer := List.count_pos_iff.mp (by omega)
    have hstop : (trailer ++ [byte]).takeWhile (· ≠ 0x2D) = trailer.takeWhile (· ≠ 0x2D) := by
      rw [List.takeWhile_append, if_neg]
      intro hall
      have hsame : trailer.takeWhile (· ≠ 0x2D) = trailer :=
        (List.takeWhile_prefix _).eq_of_length hall
      have hnone := List.all_takeWhile (p := (· ≠ (0x2D : UInt8))) (l := trailer)
      rw [hsame, List.all_eq_true] at hnone
      exact absurd (hnone _ hmem) (by simp)
    have hshort : (trailer.takeWhile (· ≠ 0x2D)).length ≤ trailer.length :=
      (List.takeWhile_prefix _).length_le
    rw [hstop, List.length_append, List.length_append, Nat.add_sub_add_right,
      List.take_append_of_le_length (by omega)]
  · rfl

/-- The open section without the blanks it has gathered. -/
def Opened.squeezed (opened : Opened) : Opened :=
  { opened with gathered := opened.gathered.filter fun c => !Base64.isBlank c }

def Turn.squeezed : Turn → Turn
  | .goOn opened? => .goOn (opened?.map Opened.squeezed)
  | turn => turn

/-- Gathered blanks do not show in a turn, but for being gathered still. -/
theorem squeezed_turn (opened? : Option Opened) (line : List UInt8) :
    (turn (opened?.map Opened.squeezed) line).squeezed = (turn opened? line).squeezed := by
  cases opened? with
  | none => rfl
  | some opened =>
    rw [Option.map_some, turn, turn]
    split
    · cases openedLabel? line with
      | none => rfl
      | some label => simp [Turn.squeezed, Opened.squeezed]
    · simp only [Opened.squeezed, Base64.decode?_filter]
      split
      · rfl
      · simp [Turn.squeezed, Opened.squeezed]

/-- Nor does the end of the line. -/
theorem squeezed_turn_concat {byte : UInt8} (h : endsLine byte = true) (opened? : Option Opened)
    (line : List UInt8) :
    (turn opened? (line ++ [byte])).squeezed = (turn opened? line).squeezed := by
  unfold turn
  rw [isPrefixOf_concat (getLast?_opening_ne h), openedLabel?_concat h]
  split
  · rfl
  · cases opened? with
    | none => rfl
    | some opened =>
      simp only [isPrefixOf_concat (getLast?_closing_ne h opened.label)]
      split
      · rfl
      · simp [Turn.squeezed, Opened.squeezed, isBlank_of_endsLine h]

/-- Lines that are read alike in every section are read alike after every turn. -/
theorem Turn.before_congr {rest other : List (List UInt8)}
    (h : ∀ opened?, readLines opened? rest = readLines opened? other) (turn : Turn) :
    turn.before rest = turn.before other := by
  cases turn with
  | fault => rfl
  | goOn opened? => exact h opened?
  | closed found => exact congrArg (Reading.cons found) (h none)

theorem Turn.before_squeezed {rest : List (List UInt8)}
    (h : ∀ opened?, readLines (opened?.map Opened.squeezed) rest = readLines opened? rest)
    (turn : Turn) : turn.squeezed.before rest = turn.before rest := by
  cases turn with
  | fault => rfl
  | goOn opened? => exact h opened?
  | closed found => rfl

/-- **Gathered blanks do not show in what is read.** -/
theorem readLines_squeezed (opened? : Option Opened) (texts : List (List UInt8)) :
    readLines (opened?.map Opened.squeezed) texts = readLines opened? texts := by
  induction texts generalizing opened? with
  | nil => cases opened? <;> rfl
  | cons line rest ih =>
    rw [readLines_cons, readLines_cons, ← Turn.before_squeezed ih, squeezed_turn,
      Turn.before_squeezed ih]

/-! ## 3. Lines without their ends -/

/-- **A line is read like the line without its end.** -/
theorem readLines_concat {byte : UInt8} (h : endsLine byte = true) (opened? : Option Opened)
    (line : List UInt8) (rest : List (List UInt8)) :
    readLines opened? ((line ++ [byte]) :: rest) = readLines opened? (line :: rest) := by
  have hrest := fun opened? => readLines_squeezed opened? rest
  rw [readLines_cons, readLines_cons, ← Turn.before_squeezed hrest, squeezed_turn_concat h,
    Turn.before_squeezed hrest]

/-- What starts with a dash is no start of a line that does not. -/
theorem isPrefixOf_of_head? {start line : List UInt8} (hstart : start.head? = some 0x2D)
    (hline : line.head? ≠ some 0x2D) : start.isPrefixOf line = false := by
  rw [← Bool.not_eq_true, List.isPrefixOf_iff_prefix]
  rintro ⟨rest, rfl⟩
  exact hline (by rw [List.head?_append, hstart, Option.some_or])

/-- A line that does not start with a dash is passed over, or it is gathered. -/
theorem turn_of_head? {line : List UInt8} (h : line.head? ≠ some 0x2D) (opened? : Option Opened) :
    turn opened? line =
      .goOn (opened?.map fun opened => { opened with gathered := opened.gathered ++ line }) := by
  have hopening : opening.isPrefixOf line = false := isPrefixOf_of_head? rfl h
  cases opened? with
  | none => simp [turn, hopening]
  | some opened =>
    have hclosing : (closing opened.label).isPrefixOf line = false := isPrefixOf_of_head? rfl h
    simp [turn, hopening, hclosing]

/-- An empty line does nothing. -/
theorem readLines_empty (opened? : Option Opened) (rest : List (List UInt8)) :
    readLines opened? ([] :: rest) = readLines opened? rest := by
  rw [readLines_cons, turn_of_head? (by simp)]
  simp only [List.append_nil, Option.map_id', Turn.before]

/-- How a line ends. -/
inductive LineEnd where
  | lineFeed
  | carriageReturn
  /-- A carriage return and a line feed. -/
  | both
deriving DecidableEq, Inhabited

def LineEnd.bytes : LineEnd → List UInt8
  | lineFeed => [0x0A]
  | carriageReturn => [0x0D]
  | both => [0x0D, 0x0A]

/-- The text of one line: no byte in it ends a line. -/
def IsLine (text : List UInt8) : Prop := ∀ byte ∈ text, endsLine byte = false

instance (text : List UInt8) : Decidable (IsLine text) :=
  decidable_of_iff (text.all (fun byte => !endsLine byte) = true) (by simp [IsLine])

/-- The bundle holds lines with these texts, each of which ends in one of the three ways.  The
last one may be without an end. -/
inductive HoldsLines : List UInt8 → List (List UInt8) → Prop
  | nil : HoldsLines [] []
  | unended {text : List UInt8} (h : IsLine text) : HoldsLines text [text]
  | ended {text bundle : List UInt8} {texts : List (List UInt8)} (h : IsLine text)
      (ending : LineEnd) (rest : HoldsLines bundle texts) :
      HoldsLines (text ++ (ending.bytes ++ bundle)) (text :: texts)

theorem lines_of_isLine {text : List UInt8} (h : IsLine text) (hne : text ≠ []) :
    lines text = [text] := by
  induction text with
  | nil => exact absurd rfl hne
  | cons byte rest ih =>
    have hbyte : endsLine byte = false := h byte List.mem_cons_self
    have hrest : IsLine rest := fun next hnext => h next (List.mem_cons_of_mem _ hnext)
    rw [lines, hbyte]
    cases rest with
    | nil => rfl
    | cons next more =>
      rw [ih hrest (by simp)]
      rfl

theorem lines_append_cons {text : List UInt8} (h : IsLine text) {byte : UInt8}
    (hbyte : endsLine byte = true) (bundle : List UInt8) :
    lines (text ++ byte :: bundle) = (text ++ [byte]) :: lines bundle := by
  induction text with
  | nil => rw [List.nil_append, lines, if_pos hbyte, List.nil_append]
  | cons first rest ih =>
    have hfirst : endsLine first = false := h first List.mem_cons_self
    have hrest : IsLine rest := fun next hnext => h next (List.mem_cons_of_mem _ hnext)
    rw [List.cons_append, lines, hfirst, ih hrest]
    rfl

/-- After a line end comes what the line does, and then the rest of the bundle. -/
theorem readLines_append_cons {text : List UInt8} (h : IsLine text) {byte : UInt8}
    (hbyte : endsLine byte = true) (opened? : Option Opened) (bundle : List UInt8) :
    readLines opened? (lines (text ++ byte :: bundle)) =
      (turn opened? text).before (lines bundle) := by
  rw [lines_append_cons h hbyte, readLines_concat hbyte, readLines_cons]

/-- A line feed after a carriage return is an empty line of its own. -/
theorem readLines_lineFeed (opened? : Option Opened) (bundle : List UInt8) :
    readLines opened? (lines (0x0A :: bundle)) = readLines opened? (lines bundle) := by
  have hline : IsLine [] := by simp [IsLine]
  have hturn : readLines opened? (lines (0x0A :: bundle)) =
      (turn opened? []).before (lines bundle) :=
    readLines_append_cons hline rfl opened? bundle
  rw [hturn, ← readLines_cons, readLines_empty]

/-- **A bundle is read like the texts of its lines.** -/
theorem readLines_of_holdsLines {bundle : List UInt8} {texts : List (List UInt8)}
    (h : HoldsLines bundle texts) (opened? : Option Opened) :
    readLines opened? (lines bundle) = readLines opened? texts := by
  induction h generalizing opened? with
  | nil => rfl
  | @unended text htext =>
    by_cases hempty : text = []
    · subst hempty
      exact (readLines_empty opened? []).symm
    · rw [lines_of_isLine htext hempty]
  | @ended text bundle texts htext ending _ ih =>
    rw [readLines_cons, ← Turn.before_congr ih]
    cases ending with
    | lineFeed => exact readLines_append_cons htext rfl opened? bundle
    | carriageReturn => exact readLines_append_cons htext rfl opened? bundle
    | both =>
      rw [← Turn.before_congr fun opened? => readLines_lineFeed opened? bundle]
      exact readLines_append_cons htext rfl opened? (0x0A :: bundle)

theorem read_of_holdsLines {bundle : List UInt8} {texts : List (List UInt8)}
    (h : HoldsLines bundle texts) : read bundle = readLines none texts :=
  readLines_of_holdsLines h none

/-! ## 4. Certificates -/

/-- The line before a certificate. -/
def beginLine : List UInt8 := Text.Utf8.encode "-----BEGIN CERTIFICATE-----"

/-- The line after a certificate. -/
def endLine : List UInt8 := Text.Utf8.encode "-----END CERTIFICATE-----"

/-- The lines write these certificates, one after another: each as its base 64 text, broken into
lines anywhere, between its two lines.  All other lines are no opening lines. -/
inductive WritesCertificates : List (List UInt8) → List (List UInt8) → Prop
  | nil : WritesCertificates [] []
  | other {text : List UInt8} {texts certificates : List (List UInt8)}
      (h : opening.isPrefixOf text = false) (rest : WritesCertificates texts certificates) :
      WritesCertificates (text :: texts) certificates
  | certificate {content : List UInt8} {body texts certificates : List (List UInt8)} (padded : Bool)
      (h : body.flatten = Base64.encode padded content)
      (rest : WritesCertificates texts certificates) :
      WritesCertificates (beginLine :: (body ++ endLine :: texts)) (content :: certificates)

/-- The lines of a section are gathered while none of them holds a dash. -/
theorem readLines_body {body : List (List UInt8)} (h : ∀ text ∈ body, (0x2D : UInt8) ∉ text)
    (label gathered : List UInt8) (rest : List (List UInt8)) :
    readLines (some ⟨label, gathered⟩) (body ++ rest) =
      readLines (some ⟨label, gathered ++ body.flatten⟩) rest := by
  induction body generalizing gathered with
  | nil => rw [List.nil_append, List.flatten_nil, List.append_nil]
  | cons text body ih =>
    have hhead : text.head? ≠ some 0x2D := fun hdash =>
      h text List.mem_cons_self (List.mem_of_mem_head? hdash)
    have hbody : ∀ text ∈ body, (0x2D : UInt8) ∉ text := fun text hmem =>
      h text (List.mem_cons_of_mem _ hmem)
    rw [List.cons_append, readLines_cons, turn_of_head? hhead, Option.map_some, Turn.before,
      ih hbody, List.flatten_cons, List.append_assoc]

/-- The closing line of a certificate ends the section when its base 64 text can be read. -/
theorem turn_endLine {gathered content : List UInt8} (h : Base64.decode? gathered = some content) :
    turn (some ⟨Text.Utf8.encode Kind.certificate.label, gathered⟩) endLine =
      .closed ⟨.certificate, content⟩ := by
  have hopening : opening.isPrefixOf endLine = false := by decide
  have hclosing :
      (closing (Text.Utf8.encode Kind.certificate.label)).isPrefixOf endLine = true := by decide
  have hkind : Kind.ofLabel? (Text.Utf8.encode Kind.certificate.label) = some .certificate := by
    decide
  simp only [turn, hopening, hclosing, hkind, h, if_true, Bool.false_eq_true, if_false]

/-- One certificate is read, and then the lines after it. -/
theorem readLines_certificate {padded : Bool} {content : List UInt8} {body : List (List UInt8)}
    (h : body.flatten = Base64.encode padded content) (rest : List (List UInt8)) :
    readLines none (beginLine :: (body ++ endLine :: rest)) =
      (readLines none rest).cons ⟨.certificate, content⟩ := by
  have hbegin : turn none beginLine =
      .goOn (some ⟨Text.Utf8.encode Kind.certificate.label, []⟩) := by decide
  have hbody : ∀ text ∈ body, (0x2D : UInt8) ∉ text := fun text htext hdash => by
    have hmem : (0x2D : UInt8) ∈ Base64.encode padded content :=
      h ▸ List.mem_flatten.mpr ⟨text, htext, hdash⟩
    exact (Base64.clean_of_mem_encode hmem).2 rfl
  have hcontent : Base64.decode? ([] ++ body.flatten) = some content := by
    rw [List.nil_append, h, Base64.decode?_encode]
  rw [readLines_cons, hbegin, Turn.before, readLines_body hbody, readLines_cons,
    turn_endLine hcontent, Turn.before]

/-- **What the lines write is what is read from them**, certificate by certificate. -/
theorem readLines_of_writesCertificates {texts certificates : List (List UInt8)}
    (h : WritesCertificates texts certificates) :
    readLines none texts = ⟨certificates.map fun content => ⟨.certificate, content⟩, true⟩ := by
  induction h with
  | nil => rfl
  | other hother _ ih =>
    rw [readLines_cons, turn, if_neg (by simp [hother])]
    exact ih
  | certificate padded hbody _ ih =>
    rw [readLines_certificate hbody, ih]
    rfl

theorem certificates?_of_read {bundle : List UInt8} {contents : List (List UInt8)}
    (h : read bundle = ⟨contents.map fun content => ⟨.certificate, content⟩, true⟩) :
    certificates? bundle = some contents := by
  simp [certificates?, h, List.filter_map, Function.comp_def]

end Pem

namespace Auth

open Pem

/-- **Every bundle that is written out is taken, and read as it was written.**  It holds at least
one certificate, of any bytes; the base 64 text may be padded or not and broken anywhere, lines
end in any way and the last one perhaps in none, and other lines stand around the sections. -/
theorem loadCa_of_written_certificates {files : File.System} {path : Path} {bundle : List UInt8}
    {texts certificates : List (List UInt8)} (hsome : certificates ≠ [])
    (hwritten : WritesCertificates texts certificates) (hbundle : HoldsLines bundle texts)
    (hread : files.read path = .ok bundle) :
    loadCa files path = .ok bundle ∧ certificates? bundle = some certificates ∧
      read bundle = ⟨certificates.map fun content => ⟨.certificate, content⟩, true⟩ := by
  have hsections : read bundle =
      ⟨certificates.map fun content => ⟨.certificate, content⟩, true⟩ := by
    rw [read_of_holdsLines hbundle, readLines_of_writesCertificates hwritten]
  have hcertificates : certificates? bundle = some certificates := certificates?_of_read hsections
  obtain ⟨certificate, others, rfl⟩ := List.exists_cons_of_ne_nil hsome
  exact ⟨loadCa_of_isSound hread (isSound_of_certificates? hcertificates), hcertificates, hsections⟩

/-- Two certificates under a remark: a padded text on two lines and one without padding, line ends
of all three kinds, and none at the end. -/
def mixedBundle : List UInt8 :=
  Text.Utf8.encode "a remark" ++ (LineEnd.carriageReturn.bytes ++
    (beginLine ++ (LineEnd.both.bytes ++
      (Text.Utf8.encode "AQ" ++ (LineEnd.lineFeed.bytes ++
        (Text.Utf8.encode "==" ++ (LineEnd.both.bytes ++
          (endLine ++ (LineEnd.lineFeed.bytes ++
            (beginLine ++ (LineEnd.lineFeed.bytes ++
              (Text.Utf8.encode "AQI" ++ (LineEnd.carriageReturn.bytes ++ endLine)))))))))))))

theorem mixed_bundle_is_taken :
    loadCa ⟨fun _ => .ok mixedBundle⟩ (Path.ofString "ca") = .ok mixedBundle ∧
      certificates? mixedBundle = some [[1], [1, 2]] := by
  have hlast : WritesCertificates
      (beginLine :: ([Text.Utf8.encode "AQI"] ++ [endLine])) [[1, 2]] :=
    .certificate false (by decide) .nil
  have hwritten : WritesCertificates (Text.Utf8.encode "a remark" :: beginLine ::
      ([Text.Utf8.encode "AQ", Text.Utf8.encode "=="] ++
        endLine :: beginLine :: ([Text.Utf8.encode "AQI"] ++ [endLine]))) [[1], [1, 2]] :=
    .other (by decide) (.certificate true (by decide) hlast)
  have hbundle : HoldsLines mixedBundle _ :=
    .ended (by decide) .carriageReturn <| .ended (by decide) .both <|
      .ended (by decide) .lineFeed <| .ended (by decide) .both <|
      .ended (by decide) .lineFeed <| .ended (by decide) .lineFeed <|
      .ended (by decide) .carriageReturn <| .unended (by decide)
  have hread : (File.System.mk fun _ => .ok mixedBundle).read (Path.ofString "ca") =
      .ok mixedBundle := rfl
  obtain ⟨htaken, hcertificates, -⟩ :=
    loadCa_of_written_certificates (by simp) hwritten hbundle hread
  exact ⟨htaken, hcertificates⟩

end Auth
end RegionalDial
