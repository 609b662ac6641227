/-
# What an address is made of

An address that names its origin is a name, `://`, an authority and what follows; of what follows,
the part before a `#` is a path and perhaps a query.  Reading takes a text apart in this way
(`Parts.exists_of_absolute?`), and a text put together in this way is read as its parts
(`Parts.absolute?_text`).  Two facts about targets come from the two directions.

* **A bare target is read literally.**  With a scheme put before it, the target is the authority
  and what follows: nothing in it can take over the place of the scheme, and no character moves.
* **An address is read as itself again.**  What is written for the parts of an address has the same
  parts, with the slash that stands for an empty path.  So reading twice is reading once
  (`parse?_text`).
-/
import Mathlib.Data.List.TakeWhile
import RegionalDial.Proofs.Scheme

namespace RegionalDial
namespace Uri

/-! ## 1. Names and schemes -/

/-- What stands between the name of a scheme and the authority. -/
def mark : List Char := "://".toList

/-- A text names a scheme when the mark stands anywhere in it. -/
theorem namesScheme_eq_true_iff {cs : List Char} : namesScheme cs = true ↔ mark <:+: cs := by
  fun_induction namesScheme cs with
  | case1 rest => exact ⟨fun _ => (List.prefix_append mark rest).isInfix, fun _ => rfl⟩
  | case2 c rest hne ih =>
    rw [ih, List.infix_cons_iff, or_iff_right]
    rintro ⟨after, hafter⟩
    obtain ⟨rfl, rfl⟩ := List.cons.inj hafter
    exact hne after rfl rfl
  | case3 => simp [mark]

theorem namesScheme_eq_false_iff {cs : List Char} : namesScheme cs = false ↔ ¬ mark <:+: cs := by
  rw [← namesScheme_eq_true_iff, Bool.not_eq_true]

/-- The name of a scheme. -/
structure IsSchemeName (name : List Char) : Prop where
  chars : ∀ c ∈ name, isSchemeChar c = true
  length : name.length ≤ longestScheme

/-- The scheme that a name stands for: the two common ones are known in any case. -/
def schemeOf (name : List Char) : List Char :=
  let lowered := name.map Char.toLower
  if lowered = "http".toList ∨ lowered = "https".toList then lowered else name

/-- Only a capital letter changes, and what it changes to is a small one. -/
theorem toLower_cases (c : Char) :
    c.toLower = c ∨ c.isUpper = true ∧ c.toLower.isLower = true := by
  by_cases hc : c.val ≥ 'A'.val ∧ c.val ≤ 'Z'.val
  · have hval : c.toLower.val = c.val + ('a'.val - 'A'.val) := congrArg Char.val (dif_pos hc)
    have hrange : 'a'.val ≤ c.toLower.val ∧ c.toLower.val ≤ 'z'.val := by
      rw [hval]
      obtain ⟨hlow, hhigh⟩ := hc
      simp only [UInt32.le_iff_toNat_le, ge_iff_le, UInt32.toNat_add] at hlow hhigh ⊢
      have hletters : 'A'.val.toNat = 65 ∧ 'Z'.val.toNat = 90 ∧ 'a'.val.toNat = 97 ∧
        'z'.val.toNat = 122 ∧ ('a'.val - 'A'.val).toNat = 32 := by decide
      omega
    exact .inr ⟨decide_eq_true hc, Bool.and_eq_true_iff.mpr
      ⟨decide_eq_true hrange.1, decide_eq_true hrange.2⟩⟩
  · exact .inl (dif_neg hc)

theorem eq_of_toLower_eq {c d : Char} (h : c.toLower = d) (hd : d.isLower = false) : c = d := by
  rcases toLower_cases c with hsame | ⟨-, hlower⟩
  · exact hsame.symm.trans h
  · rw [h, hd] at hlower
    exact absurd hlower (by simp)

/-- The case of a letter has no say in whether it may stand in a name. -/
theorem isSchemeChar_toLower (c : Char) : isSchemeChar c.toLower = isSchemeChar c := by
  rcases toLower_cases c with hsame | ⟨hupper, hlower⟩
  · rw [hsame]
  · have hbefore : isLetterOrDigit c = true := by
      change ((c.isUpper || c.isLower) || c.isDigit) = true
      rw [hupper, Bool.true_or, Bool.true_or]
    have hafter : isLetterOrDigit c.toLower = true := by
      change ((c.toLower.isUpper || c.toLower.isLower) || c.toLower.isDigit) = true
      rw [hlower, Bool.or_true, Bool.true_or]
    simp only [isSchemeChar, hbefore, hafter, Bool.true_or]

theorem schemeOf_of_common {name : List Char}
    (h : name.map Char.toLower = "http".toList ∨ name.map Char.toLower = "https".toList) :
    schemeOf name = name.map Char.toLower := if_pos h

theorem schemeOf_of_other {name : List Char} (hplain : name.map Char.toLower ≠ "http".toList)
    (hsecure : name.map Char.toLower ≠ "https".toList) : schemeOf name = name :=
  if_neg (not_or.mpr ⟨hplain, hsecure⟩)

/-- The two common schemes are names, and they stand for themselves. -/
theorem schemeOf_common {scheme : List Char}
    (h : scheme = "http".toList ∨ scheme = "https".toList) :
    IsSchemeName scheme ∧ schemeOf scheme = scheme := by
  rcases h with rfl | rfl
  · exact ⟨⟨List.all_eq_true.mp (by decide), by decide⟩, by decide⟩
  · exact ⟨⟨List.all_eq_true.mp (by decide), by decide⟩, by decide⟩

/-- **A scheme is a name, and it stands for itself.** -/
theorem schemeOf_schemeOf {name : List Char} (h : IsSchemeName name) :
    IsSchemeName (schemeOf name) ∧ schemeOf (schemeOf name) = schemeOf name := by
  by_cases hcommon : name.map Char.toLower = "http".toList ∨ name.map Char.toLower = "https".toList
  · rw [schemeOf_of_common hcommon]
    exact schemeOf_common hcommon
  · obtain ⟨hplain, hsecure⟩ := not_or.mp hcommon
    have hscheme := schemeOf_of_other hplain hsecure
    rw [hscheme, hscheme]
    exact ⟨h, rfl⟩

/-- Characters before the mark and without a colon are all that stands before a colon. -/
theorem takeWhile_append_mark {name : List Char} (h : ':' ∉ name) (rest : List Char) :
    (name ++ mark ++ rest).takeWhile (· ≠ ':') = name := by
  have hname : ∀ c ∈ name, decide (c ≠ ':') = true := by
    intro c hc
    exact decide_eq_true fun heq => h (heq ▸ hc)
  rw [List.append_assoc, List.takeWhile_append_of_pos hname]
  simp [mark]

/-- A text that starts with a name and the mark starts with a known name if it is this one. -/
theorem afterIgnoringCase?_written (known : String) {name rest : List Char}
    (hknown : ':' ∉ known.toList) (hname : ∀ c ∈ name, isSchemeChar c = true) :
    afterIgnoringCase? (known ++ "://") (name ++ mark ++ rest) =
      if name.map Char.toLower = known.toList then some rest else none := by
  split
  · rename_i hsame
    refine afterIgnoringCase?_eq_some_iff.mpr ⟨name ++ mark, rfl, ?_⟩
    rw [List.map_append, hsame, String.toList_append]
    rfl
  · rename_i hother
    refine Option.eq_none_iff_forall_ne_some.mpr fun after hafter => hother ?_
    obtain ⟨start, hcut, hstart⟩ := afterIgnoringCase?_eq_some_iff.mp hafter
    -- In lower case both texts are the same, so they are up to their first colons.
    have hlowered : name.map Char.toLower ++ mark ++ rest.map Char.toLower =
        known.toList ++ mark ++ after.map Char.toLower := by
      calc name.map Char.toLower ++ mark ++ rest.map Char.toLower
          = (name ++ mark ++ rest).map Char.toLower := by simp [mark]
        _ = known.toList ++ mark ++ after.map Char.toLower := by
          rw [hcut, List.map_append, hstart, String.toList_append]
          rfl
    have hcolon : ':' ∉ name.map Char.toLower := by
      intro hmem
      obtain ⟨c, hc, heq⟩ := List.mem_map.mp hmem
      have hchar := (isSchemeChar_toLower c).trans (hname c hc)
      rw [heq] at hchar
      exact absurd hchar (by decide)
    have hprefix := congrArg (List.takeWhile (· ≠ ':')) hlowered
    rwa [takeWhile_append_mark hcolon, takeWhile_append_mark hknown] at hprefix

/-- **A name and the mark are read as the scheme that the name stands for.** -/
theorem splitScheme?_written {name : List Char} (h : IsSchemeName name) (rest : List Char) :
    splitScheme? (name ++ mark ++ rest) = some (schemeOf name, rest) := by
  have hplain : afterIgnoringCase? "http://" (name ++ mark ++ rest) = _ :=
    afterIgnoringCase?_written "http" (by decide) h.chars
  have hsecure : afterIgnoringCase? "https://" (name ++ mark ++ rest) = _ :=
    afterIgnoringCase?_written "https" (by decide) h.chars
  rw [splitScheme?, hplain, hsecure]
  by_cases hhttp : name.map Char.toLower = "http".toList
  · rw [if_pos hhttp, schemeOf_of_common (.inl hhttp), hhttp]
  by_cases hhttps : name.map Char.toLower = "https".toList
  · rw [if_neg hhttp, if_pos hhttps, schemeOf_of_common (.inr hhttps), hhttps]
  have htake : (name ++ mark ++ rest).takeWhile isSchemeChar = name := by
    rw [List.append_assoc, List.takeWhile_append_of_pos h.chars]
    simp [mark, isSchemeChar, isLetterOrDigit]
  have hdrop : (name ++ mark ++ rest).dropWhile isSchemeChar = ':' :: '/' :: '/' :: rest := by
    rw [List.append_assoc, List.dropWhile_append_of_pos h.chars]
    simp [mark, isSchemeChar, isLetterOrDigit]
  rw [if_neg hhttp, if_neg hhttps, schemeOf_of_other hhttp hhttps]
  simp only [htake, hdrop, if_pos h.length]

/-- Lower case leaves only the mark to be the mark. -/
theorem eq_mark_of_lowered {cs : List Char} (h : cs.map Char.toLower = mark) : cs = mark := by
  obtain ⟨a, cs, rfl, ha, h⟩ := List.map_eq_cons_iff.mp h
  obtain ⟨b, cs, rfl, hb, h⟩ := List.map_eq_cons_iff.mp h
  obtain ⟨c, cs, rfl, hc, h⟩ := List.map_eq_cons_iff.mp h
  rw [List.map_eq_nil_iff.mp h, eq_of_toLower_eq ha (by decide), eq_of_toLower_eq hb (by decide),
    eq_of_toLower_eq hc (by decide)]
  rfl

/-- A text that starts with a known name starts with this name in some case, and the mark. -/
theorem exists_name_of_afterIgnoringCase? (known : String) {cs rest : List Char}
    (hknown : known.toList = "http".toList ∨ known.toList = "https".toList)
    (h : afterIgnoringCase? (known ++ "://") cs = some rest) :
    ∃ name, IsSchemeName name ∧ cs = name ++ mark ++ rest ∧ schemeOf name = known.toList := by
  obtain ⟨start, rfl, hstart⟩ := afterIgnoringCase?_eq_some_iff.mp h
  rw [String.toList_append] at hstart
  obtain ⟨name, after, rfl, hname, hafter⟩ := List.map_eq_append_iff.mp hstart
  have hcommon : name.map Char.toLower = "http".toList ∨
      name.map Char.toLower = "https".toList := by
    rwa [hname]
  have hscheme := schemeOf_common hcommon
  refine ⟨name, ⟨fun c hc => ?_, ?_⟩, ?_, ?_⟩
  · rw [← isSchemeChar_toLower c]
    exact hscheme.1.chars _ (List.mem_map_of_mem hc)
  · rw [← List.length_map]
    exact hscheme.1.length
  · rw [eq_mark_of_lowered hafter]
  · rw [schemeOf_of_common hcommon, hname]

/-- **Every scheme that is read was written as a name and the mark.** -/
theorem exists_name_of_splitScheme? {cs scheme rest : List Char}
    (h : splitScheme? cs = some (scheme, rest)) :
    ∃ name, IsSchemeName name ∧ cs = name ++ mark ++ rest ∧ scheme = schemeOf name := by
  rw [splitScheme?] at h
  cases hplain : afterIgnoringCase? "http://" cs with
  | some after =>
    rw [hplain] at h
    obtain ⟨rfl, rfl⟩ := Prod.mk.inj (Option.some.inj h)
    obtain ⟨name, hname, hcs, hscheme⟩ :=
      exists_name_of_afterIgnoringCase? "http" (.inl rfl) hplain
    exact ⟨name, hname, hcs, hscheme.symm⟩
  | none =>
    cases hsecure : afterIgnoringCase? "https://" cs with
    | some after =>
      rw [hplain, hsecure] at h
      obtain ⟨rfl, rfl⟩ := Prod.mk.inj (Option.some.inj h)
      obtain ⟨name, hname, hcs, hscheme⟩ :=
        exists_name_of_afterIgnoringCase? "https" (.inr rfl) hsecure
      exact ⟨name, hname, hcs, hscheme.symm⟩
    | none =>
      simp only [hplain, hsecure] at h
      split at h
      · rename_i after hafter
        split at h
        · rename_i hlength
          obtain ⟨rfl, rfl⟩ := Prod.mk.inj (Option.some.inj h)
          have hname : IsSchemeName (cs.takeWhile isSchemeChar) :=
            ⟨fun c hc => List.mem_takeWhile_imp hc, hlength⟩
          have hcs : cs = cs.takeWhile isSchemeChar ++ mark ++ after := by
            rw [List.append_assoc]
            exact (List.takeWhile_append_dropWhile.symm).trans (congrArg _ hafter)
          refine ⟨_, hname, hcs, ?_⟩
          -- One of the common names would have been known.
          have hread := splitScheme?_written hname after
          rw [← hcs, splitScheme?, hplain, hsecure] at hread
          simp only [hafter, if_pos hlength] at hread
          exact (Prod.mk.inj (Option.some.inj hread)).1
        · exact absurd h (by simp)
      · exact absurd h (by simp)

/-! ## 2. Path and query -/

/-- A query as it is written after a path. -/
def writtenQuery : Option (List Char) → List Char
  | none => []
  | some query => '?' :: query

/-- A path as it is written after an authority: never empty. -/
def writtenPath (path : List Char) : List Char := if path = [] then ['/'] else path

/-- The characters of a path and those of a query. -/
structure IsRest (path : List Char) (query : Option (List Char)) : Prop where
  path_chars : ∀ c ∈ path, isPathChar c = true
  query_chars : ∀ text ∈ query, ∀ c ∈ text, isQueryChar c = true

/-- No path holds the mark of a query or that of a fragment. -/
theorem ne_of_isPathChar {c : Char} (h : isPathChar c = true) : c ≠ '?' ∧ c ≠ '#' := by
  constructor <;> rintro rfl <;> exact absurd h (by decide)

theorem ne_of_isQueryChar {c : Char} (h : isQueryChar c = true) : c ≠ '#' := by
  rintro rfl
  exact absurd h (by decide)

theorem IsRest.hash_not_mem {path : List Char} {query : Option (List Char)}
    (h : IsRest path query) : '#' ∉ path ++ writtenQuery query := by
  intro hmem
  rcases List.mem_append.mp hmem with hmem | hmem
  · exact (ne_of_isPathChar (h.path_chars _ hmem)).2 rfl
  · cases query with
    | none => exact absurd hmem (by simp [writtenQuery])
    | some text =>
      rcases List.mem_cons.mp hmem with heq | hmem
      · exact absurd heq (by decide)
      · exact ne_of_isQueryChar (h.query_chars text rfl _ hmem) rfl

/-- Every text is a part without the mark of a query, and perhaps a query. -/
theorem exists_writtenQuery (body : List Char) :
    ∃ path query, body = path ++ writtenQuery query ∧ '?' ∉ path := by
  have hbody : body.takeWhile (· ≠ '?') ++ body.dropWhile (· ≠ '?') = body :=
    List.takeWhile_append_dropWhile
  have hpath : '?' ∉ body.takeWhile (· ≠ '?') := by
    intro hmem
    exact absurd (List.mem_takeWhile_imp hmem) (by decide)
  cases hend : body.dropWhile (· ≠ '?') with
  | nil =>
    refine ⟨_, none, ?_, hpath⟩
    rw [writtenQuery, ← hend, hbody]
  | cons c text =>
    have hc := List.head?_dropWhile_not (· ≠ '?') body
    rw [hend] at hc
    obtain rfl : c = '?' := by simpa using hc
    refine ⟨_, some text, ?_, hpath⟩
    rw [writtenQuery, ← hend, hbody]

/-- Path and query of a text that is written as both. -/
theorem pathAndQuery?_written {cs path : List Char} {query : Option (List Char)}
    (hpath : '?' ∉ path) (hcs : cs.takeWhile (· ≠ '#') = path ++ writtenQuery query) :
    pathAndQuery? cs =
      if path.all isPathChar && query.all (·.all isQueryChar) then some (path, query)
      else none := by
  have hchars : ∀ c ∈ path, decide (c ≠ '?') = true := by
    intro c hc
    exact decide_eq_true fun heq => hpath (heq ▸ hc)
  have htake : (path ++ writtenQuery query).takeWhile (· ≠ '?') = path := by
    rw [List.takeWhile_append_of_pos hchars]
    cases query <;> simp [writtenQuery]
  have hdrop : (path ++ writtenQuery query).dropWhile (· ≠ '?') = writtenQuery query := by
    rw [List.dropWhile_append_of_pos hchars]
    cases query <;> simp [writtenQuery]
  rw [pathAndQuery?, hcs]
  simp only [htake, hdrop]
  cases path.all isPathChar with
  | false => simp
  | true => cases query <;> simp [writtenQuery]

/-- **Path and query are what stands before the fragment.** -/
theorem pathAndQuery?_eq_some_iff {cs path : List Char} {query : Option (List Char)} :
    pathAndQuery? cs = some (path, query) ↔
      IsRest path query ∧ cs.takeWhile (· ≠ '#') = path ++ writtenQuery query := by
  constructor
  · intro h
    obtain ⟨path', query', hbody, hmark⟩ := exists_writtenQuery (cs.takeWhile (· ≠ '#'))
    rw [pathAndQuery?_written hmark hbody] at h
    split at h
    · rename_i hchars
      obtain ⟨rfl, rfl⟩ := Prod.mk.inj (Option.some.inj h)
      simp only [Bool.and_eq_true, List.all_eq_true, Option.all_eq_true] at hchars
      exact ⟨⟨hchars.1, hchars.2⟩, hbody⟩
    · exact absurd h (by simp)
  · rintro ⟨hrest, hbody⟩
    have hmark : '?' ∉ path := fun hmem => (ne_of_isPathChar (hrest.path_chars _ hmem)).1 rfl
    rw [pathAndQuery?_written hmark hbody, if_pos]
    simp only [Bool.and_eq_true, List.all_eq_true, Option.all_eq_true]
    exact ⟨hrest.path_chars, hrest.query_chars⟩

/-- What follows the authority in an address, as it was read. -/
def restText (uri : Uri) : List Char :=
  uri.path.toList ++ writtenQuery (uri.query.map String.toList)

theorem withRest?_eq_some_iff {origin : Option Origin} {cs : List Char} {uri : Uri} :
    withRest? origin cs = some uri ↔
      uri.origin = origin ∧ IsRest uri.path.toList (uri.query.map String.toList) ∧
        cs.takeWhile (· ≠ '#') = uri.restText := by
  rw [restText, ← pathAndQuery?_eq_some_iff, withRest?]
  constructor
  · intro h
    obtain ⟨⟨path, query⟩, hread, rfl⟩ := Option.map_eq_some_iff.mp h
    refine ⟨rfl, hread.trans ?_⟩
    cases query <;> simp
  · rintro ⟨rfl, hread⟩
    rw [hread]
    cases hquery : uri.query <;> simp [← hquery]

/-! ## 3. The whole text -/

/-- The parts of a text that names its origin. -/
structure Parts where
  name : List Char
  authority : List Char
  /-- What follows the authority. -/
  rest : List Char
  isName : IsSchemeName name
  authority_open : ∀ c ∈ authority, endsAuthority c = false
  rest_ends : ∀ c ∈ rest.head?, endsAuthority c = true

namespace Parts

/-- The parts, one after another. -/
def text (parts : Parts) : List Char := parts.name ++ mark ++ (parts.authority ++ parts.rest)

def origin (parts : Parts) : Origin :=
  ⟨String.ofList (schemeOf parts.name), String.ofList parts.authority⟩

/-- A name, and a text that is cut at the first character that ends an authority. -/
def cut (name : List Char) (isName : IsSchemeName name) (after : List Char) : Parts where
  name := name
  authority := after.takeWhile (!endsAuthority ·)
  rest := after.dropWhile (!endsAuthority ·)
  isName := isName
  authority_open c hc := by simpa using List.mem_takeWhile_imp hc
  rest_ends c hc := by
    have hhead := List.head?_dropWhile_not (!endsAuthority ·) after
    rw [Option.mem_def.mp hc] at hhead
    simpa using hhead

theorem text_cut {name : List Char} (isName : IsSchemeName name) (after : List Char) :
    (cut name isName after).text = name ++ mark ++ after :=
  congrArg _ List.takeWhile_append_dropWhile

/-- Where the authority ends is where it was written to end. -/
theorem authority_rest (parts : Parts) :
    (parts.authority ++ parts.rest).takeWhile (!endsAuthority ·) = parts.authority ∧
      (parts.authority ++ parts.rest).dropWhile (!endsAuthority ·) = parts.rest := by
  have hopen : ∀ c ∈ parts.authority, (!endsAuthority c) = true := by
    intro c hc
    rw [parts.authority_open c hc, Bool.not_false]
  rw [List.takeWhile_append_of_pos hopen, List.dropWhile_append_of_pos hopen]
  cases hrest : parts.rest with
  | nil => simp
  | cons c rest =>
    have hc := parts.rest_ends c (by rw [hrest]; rfl)
    simp [hc]

/-- **A text that is put together of parts is read as these.** -/
theorem absolute?_text (parts : Parts) :
    absolute? parts.text =
      if isAuthority parts.authority then withRest? (some parts.origin) parts.rest else none := by
  obtain ⟨htake, hdrop⟩ := parts.authority_rest
  rw [absolute?, text, splitScheme?_written parts.isName]
  simp only [htake, hdrop]
  rfl

/-- **Every text that is read was put together of parts.** -/
theorem exists_of_absolute? {cs : List Char} {uri : Uri} (h : absolute? cs = some uri) :
    ∃ parts : Parts, cs = parts.text ∧ isAuthority parts.authority = true ∧
      withRest? (some parts.origin) parts.rest = some uri := by
  have hread := h
  rw [absolute?] at hread
  split at hread
  · exact absurd hread (by simp)
  · rename_i scheme after hsplit
    obtain ⟨name, hname, rfl, rfl⟩ := exists_name_of_splitScheme? hsplit
    rw [← text_cut hname, absolute?_text] at h
    split at h
    · rename_i hauthority
      exact ⟨cut name hname after, (text_cut hname after).symm, hauthority, h⟩
    · exact absurd h (by simp)

/-- The text does not start like a path alone. -/
theorem head?_text (parts : Parts) : parts.text.head? ≠ some '/' := by
  rw [text]
  cases hname : parts.name with
  | nil => simp [mark]
  | cons c name =>
    have hc := parts.isName.chars c (by rw [hname]; exact List.mem_cons_self)
    rintro heq
    obtain rfl : c = '/' := by simpa using heq
    exact absurd hc (by decide)

/-- A path that follows an authority is empty or starts with a slash. -/
theorem head?_path (parts : Parts) {uri : Uri}
    (h : withRest? (some parts.origin) parts.rest = some uri) :
    uri.path.toList = [] ∨ uri.path.toList.head? = some '/' := by
  obtain ⟨-, hrest, htext⟩ := withRest?_eq_some_iff.mp h
  cases hpath : uri.path.toList with
  | nil => exact .inl rfl
  | cons c path =>
    have hc : isPathChar c = true := hrest.path_chars c (by rw [hpath]; exact List.mem_cons_self)
    have hhead : parts.rest.head? = some c := by
      rw [restText, hpath] at htext
      cases hparts : parts.rest with
      | nil => rw [hparts] at htext; exact absurd htext (by simp)
      | cons d rest =>
        rw [hparts, List.takeWhile_cons] at htext
        split at htext
        · rw [(List.cons.inj htext).1]; rfl
        · exact absurd htext (by simp)
    have hends := parts.rest_ends c hhead
    simp only [endsAuthority, Bool.or_eq_true, decide_eq_true_eq] at hends
    rcases hends with (rfl | rfl) | rfl
    · exact .inr rfl
    · exact absurd rfl (ne_of_isPathChar hc).1
    · exact absurd rfl (ne_of_isPathChar hc).2

end Parts

/-! ## 4. Reading an address again -/

/-- What follows the authority in an address, as it is written. -/
def writtenRest (uri : Uri) : List Char :=
  writtenPath uri.path.toList ++ writtenQuery (uri.query.map String.toList)

theorem toList_text (uri : Uri) :
    uri.text.toList = (uri.origin.elim [] fun origin => origin.text.toList) ++ uri.writtenRest := by
  have hpath : (if uri.path = "" then "/" else uri.path).toList = writtenPath uri.path.toList := by
    rw [writtenPath]
    simp only [String.toList_eq_nil_iff]
    split <;> rfl
  rw [text, String.toList_append, String.toList_append, hpath, writtenRest, List.append_assoc]
  cases uri.origin <;> cases uri.query <;> simp [writtenQuery]

/-- The address with the slash that stands for an empty path. -/
def written (uri : Uri) : Uri := { uri with path := String.ofList (writtenPath uri.path.toList) }

theorem restText_written (uri : Uri) : uri.written.restText = uri.writtenRest := by
  rw [restText, written, String.toList_ofList, writtenRest]

theorem writtenPath_writtenPath (path : List Char) :
    writtenPath (writtenPath path) = writtenPath path := by
  by_cases h : path = []
  · rw [h]; rfl
  · rw [writtenPath, writtenPath, if_neg h, if_neg h]

/-- The slash was in the text before. -/
theorem text_written (uri : Uri) : uri.written.text = uri.text := by
  refine String.toList_injective ?_
  rw [toList_text, toList_text, writtenRest, written]
  simp only [String.toList_ofList, writtenPath_writtenPath]
  rfl

theorem written_of_path_ne_nil {uri : Uri} (h : uri.path.toList ≠ []) : uri.written = uri := by
  rw [written, writtenPath, if_neg h, String.ofList_toList]

/-- What follows the authority is read as itself, with or without an origin before it. -/
theorem withRest?_writtenRest {uri : Uri}
    (h : IsRest uri.path.toList (uri.query.map String.toList)) :
    withRest? uri.origin uri.writtenRest = some uri.written := by
  have hwritten : IsRest uri.written.path.toList (uri.written.query.map String.toList) := by
    refine ⟨fun c hc => ?_, h.query_chars⟩
    rw [written, String.toList_ofList, writtenPath] at hc
    split at hc
    · obtain rfl := List.mem_singleton.mp hc
      decide
    · exact h.path_chars c hc
  refine withRest?_eq_some_iff.mpr ⟨rfl, hwritten, ?_⟩
  rw [← restText_written]
  refine List.takeWhile_eq_self_iff.mpr fun c hc => decide_eq_true ?_
  rintro rfl
  exact hwritten.hash_not_mem hc

theorem head?_writtenPath {path : List Char} (h : path = [] ∨ path.head? = some '/') :
    (writtenPath path).head? = some '/' := by
  rcases h with rfl | h
  · rfl
  · rw [writtenPath, if_neg (by rintro rfl; exact absurd h (by simp)), h]

theorem head?_writtenRest {uri : Uri}
    (h : uri.path.toList = [] ∨ uri.path.toList.head? = some '/') :
    uri.writtenRest.head? = some '/' := by
  rw [writtenRest, List.head?_append, head?_writtenPath h, Option.some_or]

/-- A text that starts with a slash is a path alone, and no other text is. -/
theorem parse?_eq_some_iff {s : String} {uri : Uri} :
    parse? s = some uri ↔
      s.utf8ByteSize ≤ longest ∧
        (if s.toList.head? = some '/' then withRest? none s.toList else absolute? s.toList) =
          some uri := by
  rw [parse?]
  by_cases hsize : longest < s.utf8ByteSize
  · rw [if_pos hsize]
    exact ⟨fun h => absurd h (by simp), fun h => absurd h.1 (Nat.not_le_of_lt hsize)⟩
  · rw [if_neg hsize, and_iff_right (Nat.le_of_not_lt hsize)]
    split
    · rename_i rest heq
      rw [heq, List.head?_cons, if_pos rfl]
    · rename_i hne
      rw [if_neg]
      intro hhead
      obtain ⟨rest, hrest⟩ := List.head?_eq_some_iff.mp hhead
      exact hne rest hrest

/-- A path alone is not empty: its slash was read. -/
theorem head?_path_of_slash {cs : List Char} {uri : Uri} (hslash : cs.head? = some '/')
    (h : withRest? none cs = some uri) : uri.path.toList.head? = some '/' := by
  obtain ⟨rest, rfl⟩ := List.head?_eq_some_iff.mp hslash
  obtain ⟨-, -, htext⟩ := withRest?_eq_some_iff.mp h
  have hfirst : uri.restText.head? = some '/' := by
    rw [← htext]
    rfl
  rw [restText, List.head?_append] at hfirst
  cases hpath : uri.path.toList with
  | nil =>
    rw [hpath] at hfirst
    cases hquery : uri.query <;> simp [hquery, writtenQuery] at hfirst
  | cons c path => simpa [hpath] using hfirst

/-- **Reading an address again changes nothing** but to make the slash of an empty path its
path. -/
theorem parse?_text {s : String} {uri : Uri} (h : parse? s = some uri)
    (hsize : uri.text.utf8ByteSize ≤ longest) : parse? uri.text = some uri.written := by
  refine parse?_eq_some_iff.mpr ⟨hsize, ?_⟩
  obtain ⟨-, h⟩ := parse?_eq_some_iff.mp h
  split at h
  · -- What is written for a path alone starts with its slash.
    rename_i hslash
    have hpath := head?_path_of_slash hslash h
    obtain ⟨horigin, hrest, -⟩ := withRest?_eq_some_iff.mp h
    have htext : uri.text.toList = uri.writtenRest := by
      rw [toList_text, horigin]
      rfl
    rw [htext, if_pos (head?_writtenRest (.inr hpath)), ← horigin]
    exact withRest?_writtenRest hrest
  · -- What is written for an address with an origin has the scheme for its name.
    obtain ⟨parts, -, hauthority, h⟩ := Parts.exists_of_absolute? h
    have hpath := parts.head?_path h
    obtain ⟨horigin, hrest, -⟩ := withRest?_eq_some_iff.mp h
    obtain ⟨hname, hscheme⟩ := schemeOf_schemeOf parts.isName
    let again : Parts := {
      parts with
      name := schemeOf parts.name
      rest := uri.writtenRest
      isName := hname
      rest_ends := fun c hc => by
        obtain rfl := Option.some.inj ((head?_writtenRest hpath).symm.trans hc)
        decide }
    have htext : uri.text.toList = again.text := by
      rw [toList_text, horigin]
      simp [Parts.text, Parts.origin, Origin.text, again, mark]
    have horigin' : again.origin = parts.origin := by
      simp only [Parts.origin, again, hscheme]
    rw [htext, if_neg again.head?_text, again.absolute?_text, if_pos hauthority, horigin',
      ← horigin]
    exact withRest?_writtenRest hrest

end Uri
end RegionalDial
