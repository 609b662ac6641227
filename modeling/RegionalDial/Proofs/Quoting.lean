/-
# Texts of a document, written and read

A text is written in one of four ways, and which one depends on its characters.  Whichever it is,
reading gives the text back and stops right behind its closing quotes (`readText_quoted`), as long
as no quote follows.

* **Between double quotes** every character can stand, for what cannot stand for itself is escaped.
  One line and several lines are read by two readers, but an escape means the same to both, and so
  there is one lemma about escapes (`ReadsEscapes.escape`).
* **Between single quotes** nothing is escaped, so this way is taken only where all characters stand
  for themselves (`of_style_literal`, `of_style_literalLines`).
* **Between three quotes** the text may hold quotes, and may end with two of them, which then stand
  right before the closing three.  That these five are told apart rests on one thing: never do
  three quotes in a row stand inside, for every third one is escaped or the way is not taken.  One
  lemma serves both kinds of quotes (`ClosesAtThree.quote`).
-/
import RegionalDial.Toml.Writer

namespace RegionalDial
namespace Toml

/-! ## 1. Characters -/

namespace Writer

theorem hexValue?_hexDigit {n : Nat} (h : n < 16) : hexValue? (hexDigit n) = some n := by
  have hall : ∀ n : Fin 16, hexValue? (hexDigit n) = some n.val := by decide
  exact hall ⟨n, h⟩

/-- What has to be escaped by its code point is one of the first characters. -/
theorem lt_of_not_isPrintable {c : Char} (h : isPrintable c = false) : c.toNat < 0x80 := by
  simp only [isPrintable, Bool.or_eq_false_iff, Bool.and_eq_false_iff, decide_eq_false_iff_not] at h
  omega

/-- An escape starts with a backslash, or it is the character itself. -/
theorem head?_escape (c : Char) :
    ∃ first more, escape c = first :: more ∧
      (first = '\\' ∨ first = c ∧ isPrintable c = true) := by
  fun_cases escape c with
  | case6 _ _ _ _ _ hplain => exact ⟨c, [], rfl, .inr ⟨rfl, hplain⟩⟩
  | _ => exact ⟨'\\', _, rfl, .inl rfl⟩

end Writer

/-! ## 2. Escapes -/

/-- No blank stands for anything behind a backslash. -/
theorem not_blank_of_escaped? {letter e : Char} (h : escaped? letter = some e) :
    isSpace letter = false ∧ letter ≠ '\n' ∧ letter ≠ '\r' := by
  refine ⟨Bool.eq_false_iff.mpr fun hspace => ?_, ?_, ?_⟩
  · rw [isSpace, Bool.or_eq_true, decide_eq_true_iff, decide_eq_true_iff] at hspace
    rcases hspace with rfl | rfl
    · exact absurd h (by simp [escaped?])
    · exact absurd h (by simp [escaped?])
  · rintro rfl
    exact absurd h (by simp [escaped?])
  · rintro rfl
    exact absurd h (by simp [escaped?])

/-- The reader takes characters between double quotes, and escapes for what they stand for. -/
structure ReadsEscapes (read : List Char → Option (List Char × List Char)) : Prop where
  plain {c : Char} (hprintable : isPrintable c = true) (hquote : c ≠ '"') (hslash : c ≠ '\\')
    (rest : List Char) :
    read (c :: rest) = (read rest).map fun (cs, rest) => (c :: cs, rest)
  letter {letter e : Char} (hletter : escaped? letter = some e) (rest : List Char) :
    read ('\\' :: letter :: rest) = (read rest).map fun (cs, rest) => (e :: cs, rest)
  code {a b e : Char} {high low : Nat} (ha : hexValue? a = some high) (hb : hexValue? b = some low)
    (he : scalar? (high * 16 + low) = some e) (rest : List Char) :
    read ('\\' :: 'u' :: '0' :: '0' :: a :: b :: rest) =
      (read rest).map fun (cs, rest) => (e :: cs, rest)

namespace ReadsEscapes

variable {read : List Char → Option (List Char × List Char)} (h : ReadsEscapes read)

include h

theorem codePoint {c : Char} (hlow : c.toNat < 0x100) (rest : List Char) :
    read (Writer.codePoint c ++ rest) = (read rest).map fun (cs, rest) => (c :: cs, rest) := by
  have hhigh : hexValue? (Writer.hexDigit (c.toNat / 16)) = some (c.toNat / 16) :=
    Writer.hexValue?_hexDigit (by omega)
  have hdigit : hexValue? (Writer.hexDigit (c.toNat % 16)) = some (c.toNat % 16) :=
    Writer.hexValue?_hexDigit (by omega)
  have hscalar : scalar? (c.toNat / 16 * 16 + c.toNat % 16) = some c := by
    have hvalue : c.toNat / 16 * 16 + c.toNat % 16 = c.toNat := by omega
    have hvalid : c.toNat.isValidChar := c.valid
    rw [hvalue, scalar?, if_pos hvalid, Char.ofNat_toNat]
  exact h.code hhigh hdigit hscalar rest

/-- **An escaped character is read as itself.** -/
theorem escape {c : Char} (hquote : c ≠ '"') (rest : List Char) :
    read (Writer.escape c ++ rest) = (read rest).map fun (cs, rest) => (c :: cs, rest) := by
  -- Five characters have a letter of their own; what is left is the character or its code point.
  fun_cases Writer.escape c with
  | case6 hslash _ _ _ _ hprintable => exact h.plain hprintable hquote hslash rest
  | case7 _ _ _ _ _ hcontrol =>
    have hlow := Writer.lt_of_not_isPrintable (Bool.eq_false_iff.mpr hcontrol)
    exact h.codePoint (by omega) rest
  | _ =>
    subst_vars
    exact h.letter rfl rest

end ReadsEscapes

/-! ## 3. On one line -/

theorem readsEscapes_readBasic : ReadsEscapes (readBasic .plain) where
  plain hprintable hquote hslash rest := by
    rw [readBasic, if_neg hquote, if_neg hslash, if_pos hprintable] <;> simp
  letter {letter e} hletter rest := by
    have hescape : readBasic .plain ('\\' :: letter :: rest) = readBasic .escape (letter :: rest) :=
      rfl
    rw [hescape, readBasic, hletter]
  code {a b e high low} ha hb he rest := by
    have hstart : readBasic .plain ('\\' :: 'u' :: '0' :: '0' :: a :: b :: rest) =
        readBasic (.code 1 0) (a :: b :: rest) := rfl
    rw [hstart]
    simp only [readBasic, ha, hb, Nat.zero_mul, Nat.zero_add, he]

/-- **A text between double quotes is read back.** -/
theorem readBasic_basicBody (cs rest : List Char) :
    readBasic .plain (Writer.basicBody cs ++ '"' :: rest) = some (cs, rest) := by
  induction cs with
  | nil => rfl
  | cons c cs ih =>
    have hbody : Writer.basicBody (c :: cs) = (if c = '"' then ['\\', '"'] else
        if c = '\n' then ['\\', 'n'] else Writer.escape c) ++ Writer.basicBody cs := rfl
    rw [hbody, List.append_assoc]
    split
    · rename_i hquote
      have hletter : escaped? '"' = some '"' := rfl
      rw [hquote, List.cons_append, List.singleton_append, readsEscapes_readBasic.letter hletter,
        ih, Option.map_some]
    · split
      · rename_i hline
        have hletter : escaped? 'n' = some '\n' := rfl
        rw [hline, List.cons_append, List.singleton_append, readsEscapes_readBasic.letter hletter,
          ih, Option.map_some]
      · rename_i hquote _
        rw [readsEscapes_readBasic.escape hquote, ih, Option.map_some]

/-- **A text between single quotes is read back** when all its characters stand for themselves and
none is a quote. -/
theorem readLiteral_append {cs : List Char} (hplain : Writer.isPlain cs = true)
    (hquote : '\'' ∉ cs) (rest : List Char) :
    readLiteral (cs ++ '\'' :: rest) = some (cs, rest) := by
  induction cs with
  | nil => rfl
  | cons c cs ih =>
    rw [Writer.isPlain, List.all_cons, Bool.and_eq_true] at hplain
    rw [List.mem_cons, not_or] at hquote
    rw [List.cons_append, readLiteral, if_neg (Ne.symm hquote.1), if_pos hplain.1,
      ih hplain.2 hquote.2, Option.map_some]

/-! ## 4. On several lines -/

section Closing

variable {mark : Char} {rest : List Char}

theorem closing_of_head? (h : rest.head? ≠ some mark) : closing mark rest = ([], rest) := by
  rcases rest with _ | ⟨a, _ | ⟨b, more⟩⟩
  · rfl
  · have hne : a ≠ mark := fun he => h (congrArg some he)
    rw [closing, if_neg hne]
  · have hne : a ≠ mark := fun he => h (congrArg some he)
    rw [closing, if_neg hne]

theorem closing_one (h : rest.head? ≠ some mark) :
    closing mark (mark :: rest) = ([mark], rest) := by
  rcases rest with _ | ⟨a, more⟩
  · rw [closing, if_pos rfl]
  · have hne : a ≠ mark := fun he => h (congrArg some he)
    rw [closing, if_pos rfl, if_neg hne]

theorem closing_two : closing mark (mark :: mark :: rest) = ([mark, mark], rest) := by
  rw [closing, if_pos rfl, if_pos rfl]

/-- The reader ends at three quotes and takes every other quote as a character. -/
structure ClosesAtThree (mark : Char) (read : List Char → Option (List Char × List Char)) :
    Prop where
  closes (rest : List Char) : read (mark :: mark :: mark :: rest) = some (closing mark rest)
  takes {rest : List Char} (h : ¬ [mark, mark] <+: rest) :
    read (mark :: rest) = (read rest).map fun (cs, rest) => (mark :: cs, rest)

variable {read : List Char → Option (List Char × List Char)}

/-- A text ends at its closing quotes. -/
theorem ClosesAtThree.nil (hread : ClosesAtThree mark read) (hrest : rest.head? ≠ some mark) :
    read (mark :: mark :: mark :: rest) = some ([], rest) := by
  rw [hread.closes, closing_of_head? hrest]

/-- **A quote is read as a character, also right before the closing ones**, when what is written
behind it does not start with two more. -/
theorem ClosesAtThree.quote (hread : ClosesAtThree mark read) (hrest : rest.head? ≠ some mark)
    {written cs : List Char} (htwo : ¬ [mark, mark] <+: written)
    (h : read (written ++ mark :: mark :: mark :: rest) = some (cs, rest)) :
    read (mark :: (written ++ mark :: mark :: mark :: rest)) = some (mark :: cs, rest) := by
  by_cases hmore : [mark, mark] <+: written ++ mark :: mark :: mark :: rest
  · -- Nothing is written behind the quote, or one more: the text ends with these.
    rcases written with _ | ⟨a, _ | ⟨b, more⟩⟩
    · rw [List.nil_append, hread.nil hrest, Option.some_inj, Prod.mk.injEq] at h
      rw [List.nil_append, hread.closes, closing_one hrest, ← h.1]
    · obtain ⟨rfl, -⟩ := List.cons_prefix_cons.mp hmore
      rw [List.singleton_append, hread.closes, closing_one hrest, Option.some_inj,
        Prod.mk.injEq] at h
      rw [List.singleton_append, hread.closes, closing_two, ← h.1]
    · obtain ⟨rfl, hnext⟩ := List.cons_prefix_cons.mp hmore
      obtain ⟨rfl, -⟩ := List.cons_prefix_cons.mp hnext
      exact absurd ⟨more, rfl⟩ htwo
  · rw [hread.takes hmore, h, Option.map_some]

end Closing

/-! ### Between double quotes -/

/-- A character that is no carriage return and starts no closing quotes. -/
theorem readBasicLines_plain {c : Char} {rest : List Char} (hreturn : c ≠ '\r')
    (hquotes : ¬ ['"', '"', '"'] <+: c :: rest) :
    readBasicLines .plain (c :: rest) =
      if c = '\\' then readBasicLines .escape rest
      else if isPrintable c || c = '\n' then
        (readBasicLines .plain rest).map fun (cs, rest) => (c :: cs, rest)
      else none := by
  rw [readBasicLines]
  · rfl
  case x_5 => exact fun _ _ hc _ => hreturn hc
  case x_6 =>
    rintro more - rfl rfl
    exact hquotes ⟨more, rfl⟩
  all_goals simp

theorem closesAtThree_readBasicLines : ClosesAtThree '"' (readBasicLines .plain) where
  closes _ := rfl
  takes {rest} h := by
    have hquotes : ¬ ['"', '"', '"'] <+: '"' :: rest := fun hprefix =>
      h (List.cons_prefix_cons.mp hprefix).2
    rw [readBasicLines_plain (by decide) hquotes]
    rfl

/-- No character but a quote starts the closing ones. -/
theorem readBasicLines_plain_of_ne {c : Char} (hreturn : c ≠ '\r') (hquote : c ≠ '"')
    (rest : List Char) :
    readBasicLines .plain (c :: rest) =
      if c = '\\' then readBasicLines .escape rest
      else if isPrintable c || c = '\n' then
        (readBasicLines .plain rest).map fun (cs, rest) => (c :: cs, rest)
      else none :=
  readBasicLines_plain hreturn fun hprefix => hquote (List.cons_prefix_cons.mp hprefix).1.symm

theorem readsEscapes_readBasicLines : ReadsEscapes (readBasicLines .plain) where
  plain {c} hprintable hquote hslash rest := by
    have hreturn : c ≠ '\r' := by
      rintro rfl
      exact absurd hprintable (by decide)
    rw [readBasicLines_plain_of_ne hreturn hquote, if_neg hslash, hprintable, Bool.true_or,
      if_pos rfl]
  letter {letter e} hletter rest := by
    obtain ⟨hspace, hline, hreturn⟩ := not_blank_of_escaped? hletter
    rw [readBasicLines_plain_of_ne (by decide) (by decide), if_pos rfl, readBasicLines, hspace,
      if_neg Bool.false_ne_true, if_neg hline, hletter]
    exact fun _ hc _ => hreturn hc
  code {a b e high low} ha hb he rest := by
    have hstart : readBasicLines .plain ('\\' :: 'u' :: '0' :: '0' :: a :: b :: rest) =
        readBasicLines (.code 1 0) (a :: b :: rest) := rfl
    rw [hstart]
    simp only [readBasicLines, ha, hb, Nat.zero_mul, Nat.zero_add, he]

namespace Writer

/-- What is written for a character that is no quote starts with a backslash or the character. -/
theorem basicLinesBody_cons_of_ne {c : Char} (hquote : c ≠ '"') (run : Nat) (cs : List Char) :
    ∃ first more, basicLinesBody run (c :: cs) = first :: more ∧
      (first = '\\' ∨ first = c ∧ (isPrintable c = true ∨ c = '\n')) := by
  rw [basicLinesBody, if_neg hquote]
  split
  · rename_i hline
    exact ⟨'\n', basicLinesBody 0 cs, rfl, .inr ⟨hline.symm, .inr hline⟩⟩
  · obtain ⟨first, more, hescape, hfirst⟩ := head?_escape c
    rw [hescape]
    exact ⟨first, more ++ basicLinesBody 0 cs, rfl, hfirst.imp_right (And.imp_right .inl)⟩

theorem head?_basicLinesBody_cons_of_ne {c : Char} (hquote : c ≠ '"') (run : Nat)
    (cs : List Char) : (basicLinesBody run (c :: cs)).head? ≠ some '"' := by
  obtain ⟨first, more, hbody, hfirst⟩ := basicLinesBody_cons_of_ne hquote run cs
  rw [hbody, List.head?_cons, Ne, Option.some_inj]
  rcases hfirst with rfl | ⟨rfl, -⟩
  · decide
  · exact hquote

/-- Behind two quotes the next one is escaped. -/
theorem head?_basicLinesBody_two (cs : List Char) : (basicLinesBody 2 cs).head? ≠ some '"' := by
  cases cs with
  | nil => nofun
  | cons c cs =>
    by_cases hquote : c = '"'
    · rw [basicLinesBody, if_pos hquote, if_pos rfl]
      exact (by decide : some '\\' ≠ some '"')
    · exact head?_basicLinesBody_cons_of_ne hquote 2 cs

/-- Behind one quote no two more are written as they are. -/
theorem not_twoQuotes_prefix_basicLinesBody_one (cs : List Char) :
    ¬ ['"', '"'] <+: basicLinesBody 1 cs := by
  rintro ⟨more, hmore⟩
  cases cs with
  | nil => exact absurd hmore (by simp [basicLinesBody])
  | cons c cs =>
    by_cases hquote : c = '"'
    · rw [basicLinesBody, if_pos hquote, if_neg (by decide), List.cons_append] at hmore
      exact head?_basicLinesBody_two cs (by rw [← (List.cons.inj hmore).2]; rfl)
    · exact head?_basicLinesBody_cons_of_ne hquote 1 cs (by rw [← hmore]; rfl)

theorem not_twoQuotes_prefix_basicLinesBody {run : Nat} (hrun : run = 1 ∨ run = 2)
    (cs : List Char) : ¬ ['"', '"'] <+: basicLinesBody run cs := by
  rcases hrun with rfl | rfl
  · exact not_twoQuotes_prefix_basicLinesBody_one cs
  · rintro ⟨more, hmore⟩
    exact head?_basicLinesBody_two cs (by rw [← hmore]; rfl)

end Writer

/-- **A text between three double quotes is read back**, also where some quotes stand right before
it already. -/
theorem readBasicLines_basicLinesBody {rest : List Char} (hrest : rest.head? ≠ some '"')
    {run : Nat} (hrun : run ≤ 2) (cs : List Char) :
    readBasicLines .plain (Writer.basicLinesBody run cs ++ '"' :: '"' :: '"' :: rest) =
      some (cs, rest) := by
  induction cs generalizing run with
  | nil => exact closesAtThree_readBasicLines.nil hrest
  | cons c cs ih =>
    rw [Writer.basicLinesBody]
    split
    · rename_i hquote
      rw [hquote]
      split
      · have hletter : escaped? '"' = some '"' := rfl
        rw [List.cons_append, List.cons_append, readsEscapes_readBasicLines.letter hletter,
          ih (Nat.zero_le 2), Option.map_some]
      · rw [List.cons_append]
        refine closesAtThree_readBasicLines.quote hrest ?_ (ih (by omega))
        exact Writer.not_twoQuotes_prefix_basicLinesBody (by omega) cs
    · rename_i hquote
      rw [List.append_assoc]
      split
      · rename_i hline
        rw [hline, List.singleton_append, readBasicLines_plain_of_ne (by decide) (by decide),
          ih (Nat.zero_le 2)]
        rfl
      · rw [readsEscapes_readBasicLines.escape hquote, ih (Nat.zero_le 2), Option.map_some]

/-! ### Between single quotes -/

theorem Writer.holdsThree_of_cons {mark c : Char} {cs : List Char}
    (h : holdsThree mark (c :: cs) = false) : holdsThree mark cs = false := by
  rcases cs with _ | ⟨a, _ | ⟨b, cs⟩⟩
  · rfl
  · rfl
  · rw [holdsThree, Bool.or_eq_false_iff] at h
    exact h.2

theorem readLiteralLines_cons {c : Char} {rest : List Char}
    (hquotes : ¬ ['\'', '\'', '\''] <+: c :: rest) (h : isPrintable c = true ∨ c = '\n') :
    readLiteralLines (c :: rest) =
      (readLiteralLines rest).map fun (cs, rest) => (c :: cs, rest) := by
  have htaken : (isPrintable c || decide (c = '\n')) = true := by
    rwa [Bool.or_eq_true, decide_eq_true_iff]
  rw [readLiteralLines, if_pos htaken]
  · rintro more rfl rfl
    exact hquotes ⟨more, rfl⟩
  · rintro more rfl -
    exact absurd h (by decide)

theorem closesAtThree_readLiteralLines : ClosesAtThree '\'' readLiteralLines where
  closes _ := rfl
  takes h :=
    readLiteralLines_cons (fun hprefix => h (List.cons_prefix_cons.mp hprefix).2) (.inl rfl)

/-- **A text between three single quotes is read back** when no other three stand in it. -/
theorem readLiteralLines_append {rest : List Char} (hrest : rest.head? ≠ some '\'')
    {cs : List Char} (hplain : Writer.isPlainLines cs = true)
    (hthree : Writer.holdsThree '\'' cs = false) :
    readLiteralLines (cs ++ '\'' :: '\'' :: '\'' :: rest) = some (cs, rest) := by
  induction cs with
  | nil => exact closesAtThree_readLiteralLines.nil hrest
  | cons c cs ih =>
    rw [Writer.isPlainLines, List.all_cons, Bool.and_eq_true, Bool.or_eq_true,
      decide_eq_true_iff] at hplain
    have hmore := ih hplain.2 (Writer.holdsThree_of_cons hthree)
    by_cases hquote : c = '\''
    · subst hquote
      refine closesAtThree_readLiteralLines.quote hrest ?_ hmore
      rintro ⟨more, rfl⟩
      exact absurd hthree (by simp [Writer.holdsThree])
    · have hquotes : ¬ ['\'', '\'', '\''] <+: c :: (cs ++ '\'' :: '\'' :: '\'' :: rest) :=
        fun hprefix => hquote (List.cons_prefix_cons.mp hprefix).1.symm
      rw [List.cons_append, readLiteralLines_cons hquotes hplain.1, hmore, Option.map_some]

/-! ### Behind the opening quotes -/

theorem dropLineEnd_cons {c : Char} (hline : c ≠ '\n') (hreturn : c ≠ '\r') (cs : List Char) :
    dropLineEnd (c :: cs) = c :: cs := by
  rw [dropLineEnd]
  · exact fun _ h => hline (List.cons.inj h).1
  · exact fun _ h => hreturn (List.cons.inj h).1

namespace Writer

/-- A line end is dropped where one was written for it. -/
theorem dropLineEnd_opening (cs : List Char) {written : List Char}
    (h : '\n' ∉ cs → dropLineEnd written = written) :
    dropLineEnd (opening cs ++ written) = written := by
  rw [opening]
  split
  · rfl
  · rename_i hline
    exact h (by simpa using hline)

theorem dropLineEnd_basicLinesBody {cs : List Char} (hline : '\n' ∉ cs) (rest : List Char) :
    dropLineEnd (basicLinesBody 0 cs ++ '"' :: rest) = basicLinesBody 0 cs ++ '"' :: rest := by
  cases cs with
  | nil => exact dropLineEnd_cons (by decide) (by decide) rest
  | cons c cs =>
    by_cases hquote : c = '"'
    · rw [basicLinesBody, if_pos hquote, if_neg (by decide)]
      exact dropLineEnd_cons (by decide) (by decide) _
    · obtain ⟨first, more, hbody, hfirst⟩ := basicLinesBody_cons_of_ne hquote 0 cs
      rw [hbody]
      have hne : c ≠ '\n' := fun h => hline (h ▸ List.mem_cons_self)
      rcases hfirst with rfl | ⟨rfl, hplain | hend⟩
      · exact dropLineEnd_cons (by decide) (by decide) _
      · refine dropLineEnd_cons hne ?_ _
        rintro rfl
        exact absurd hplain (by decide)
      · exact absurd hend hne

theorem dropLineEnd_plainLines {cs : List Char} (hplain : isPlainLines cs = true)
    (hline : '\n' ∉ cs) (rest : List Char) :
    dropLineEnd (cs ++ '\'' :: rest) = cs ++ '\'' :: rest := by
  cases cs with
  | nil => exact dropLineEnd_cons (by decide) (by decide) rest
  | cons c cs =>
    refine dropLineEnd_cons (fun h => hline (h ▸ List.mem_cons_self)) ?_ _
    rintro rfl
    exact absurd hplain (by simp [isPlainLines, isPrintable])

end Writer

/-! ## 5. A text of any kind -/

namespace Writer

variable {cs : List Char}

theorem of_style_literal : style cs = .literal → isPlain cs = true ∧ '\'' ∉ cs := by
  fun_cases style cs with
  | case2 _ hplain =>
    intro _
    simpa using hplain
  | _ => nofun

theorem of_style_literalLines :
    style cs = .literalLines → isPlainLines cs = true ∧ holdsThree '\'' cs = false := by
  fun_cases style cs with
  | case4 _ _ _ hplain =>
    intro _
    simpa using hplain
  | _ => nofun

/-- What is written between double quotes on one line does not start with one. -/
theorem head?_basicBody (cs : List Char) : (basicBody cs).head? ≠ some '"' := by
  cases cs with
  | nil => nofun
  | cons c cs =>
    rw [basicBody, List.flatMap_cons]
    split
    · exact (by decide : some '\\' ≠ some '"')
    · rename_i hquote
      split
      · exact (by decide : some '\\' ≠ some '"')
      · obtain ⟨first, more, hescape, hfirst⟩ := head?_escape c
        rw [hescape, List.cons_append, List.head?_cons, Ne, Option.some_inj]
        rcases hfirst with rfl | ⟨rfl, -⟩
        · decide
        · exact hquote

/-- No second quote follows the opening one, for no quote follows the closing one. -/
theorem not_twoQuotes_prefix_append {mark : Char} {written rest : List Char}
    (hwritten : written.head? ≠ some mark) (hrest : rest.head? ≠ some mark) :
    ¬ [mark, mark] <+: written ++ mark :: rest := by
  rintro ⟨more, hmore⟩
  cases written with
  | nil => exact hrest (by rw [← (List.cons.inj hmore).2]; rfl)
  | cons c written => exact hwritten (congrArg some (List.cons.inj hmore).1.symm)

end Writer

variable {rest : List Char}

/-- One quote opens a text on one line. -/
theorem readText_of_oneQuote {mark : Char} {written : List Char}
    (h : ¬ [mark, mark] <+: written) :
    readText (mark :: written) = readLineText (mark :: written) := by
  rw [readText]
  · rintro more hopen
    obtain ⟨rfl, rfl⟩ := List.cons.inj hopen
    exact h ⟨more, rfl⟩
  · rintro more hopen
    obtain ⟨rfl, rfl⟩ := List.cons.inj hopen
    exact h ⟨more, rfl⟩

/-- **A text is read back as it was written**, whichever way it was, and reading stops right behind
it. -/
theorem readText_quoted (cs : List Char) (hdouble : rest.head? ≠ some '"')
    (hsingle : rest.head? ≠ some '\'') :
    readText (Writer.quoted cs ++ rest) = some (cs, rest) := by
  rw [Writer.quoted]
  cases hstyle : Writer.style cs with
  | basic =>
    have hone := Writer.not_twoQuotes_prefix_append (Writer.head?_basicBody cs) hdouble
    simp only [List.append_assoc, List.cons_append, List.nil_append]
    rw [readText_of_oneQuote hone]
    exact readBasic_basicBody cs rest
  | literal =>
    obtain ⟨hplain, hquote⟩ := Writer.of_style_literal hstyle
    have hone : ¬ ['\'', '\''] <+: cs ++ '\'' :: rest :=
      Writer.not_twoQuotes_prefix_append (fun h => hquote (List.mem_of_mem_head? h)) hsingle
    simp only [List.append_assoc, List.cons_append, List.nil_append]
    rw [readText_of_oneQuote hone]
    exact readLiteral_append hplain hquote rest
  | basicLines =>
    have hopen := Writer.dropLineEnd_opening cs fun hline =>
      Writer.dropLineEnd_basicLinesBody hline ('"' :: '"' :: rest)
    have hread := readBasicLines_basicLinesBody hdouble (Nat.zero_le 2) cs
    simp only [List.append_assoc, List.cons_append, List.nil_append]
    rw [readText, hopen, hread]
  | literalLines =>
    obtain ⟨hplain, hthree⟩ := Writer.of_style_literalLines hstyle
    have hopen := Writer.dropLineEnd_opening cs fun hline =>
      Writer.dropLineEnd_plainLines hplain hline ('\'' :: '\'' :: rest)
    have hread := readLiteralLines_append hsingle hplain hthree
    simp only [List.append_assoc, List.cons_append, List.nil_append]
    rw [readText, hopen, hread]

/-- Two quotes of the text stand right before the three that close it. -/
example : Writer.quoted "\n\"\"".toList = "\"\"\"\n\n\"\"\"\"\"".toList := by decide

end Toml
end RegionalDial
