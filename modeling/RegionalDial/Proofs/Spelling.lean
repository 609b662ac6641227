/-
# How a flag is read

A flag has parts with commas between them: the scheme, the file of a token and perhaps a bundle.
Only the last of the three may be empty, and an empty one counts as none.  So two flags can mean
one value, and then one of them is the other with a comma at its end.  What is written for a value
is the shorter one.

Reading looks at the parts in a fixed order, first at the scheme, then at their number and then at
the file of the token.  All of it can be said of the flag itself, without cutting it: the first
part is what stands before the first comma (`Text.head?_splitOn`), and there is one part more than
there are commas (`Text.length_splitOn`).
-/
import RegionalDial.Proofs.Flags

namespace RegionalDial

open Text

/-- A path of text is shown as this text. -/
theorem Path.display_ofString (s : String) : (Path.ofString s).display = s :=
  Utf8.decodeLossy_encode s

theorem Path.isEmpty_ofString_eq_false_iff {s : String} :
    (Path.ofString s).isEmpty = false ↔ s ≠ "" := by
  rw [Path.isEmpty, List.isEmpty_eq_false_iff]
  exact not_congr ⟨fun h => Utf8.encode_inj h, fun h => h ▸ rfl⟩

namespace Auth

/-! ## 1. The parts of a flag -/

/-- The flag, part by part: the scheme, the file of a token and, where there is one more comma, a
bundle. -/
structure Spells (flag tokenFile : String) (ca : Option String) : Prop where
  flag_eq : flag = "token," ++ tokenFile ++ ca.elim "" ("," ++ ·)
  named : tokenFile ≠ ""
  tokenFile_plain : ',' ∉ tokenFile.toList
  ca_plain : ∀ path ∈ ca, ',' ∉ path.toList

/-- The text before the first comma. -/
def firstPart (flag : String) : String := String.ofList (flag.toList.takeWhile (· ≠ ','))

/-- The number of parts. -/
def partCount (flag : String) : Nat := flag.toList.count ',' + 1

/-- Why a flag that spells nothing is refused. -/
def refusal (flag : String) : Error :=
  if firstPart flag ≠ "token" then .unknownScheme (firstPart flag)
  else if partCount flag < 2 ∨ 3 < partCount flag then .wrongParameterCount
  else .missingTokenFile

variable {flag tokenFile : String} {ca : Option String} {auth : Auth}

/-- The value that the parts of a flag name. -/
def ofParts (tokenFile : String) (ca : Option String) : Auth :=
  ⟨Path.ofString tokenFile, (ca.filter (· ≠ "")).map Path.ofString⟩

/-- The flag with these parts. -/
theorem toList_spelled (tokenFile : String) (ca : Option String) :
    ("token," ++ tokenFile ++ ca.elim "" ("," ++ ·)).toList =
      joinWith ',' (scheme.toList :: tokenFile.toList :: (ca.map String.toList).toList) := by
  cases ca <;> simp [scheme, joinWith]

/-- **A flag spells two parts, or three, when it is cut into them.** -/
theorem spells_iff : Spells flag tokenFile ca ↔
    splitOn ',' flag.toList =
      scheme.toList :: tokenFile.toList :: (ca.map String.toList).toList ∧ tokenFile ≠ "" := by
  constructor
  · intro h
    refine ⟨?_, h.named⟩
    rw [h.flag_eq, toList_spelled, splitOn_joinWith (by simp)]
    intro part hpart
    rcases List.mem_cons.mp hpart with rfl | hpart
    · decide
    rcases List.mem_cons.mp hpart with rfl | hpart
    · exact h.tokenFile_plain
    · obtain ⟨path, hpath, rfl⟩ := Option.map_eq_some_iff.mp (Option.mem_toList.mp hpart)
      exact h.ca_plain path hpath
  · rintro ⟨hsplit, hnamed⟩
    refine ⟨?_, hnamed, ?_, fun path hpath => ?_⟩
    · rw [← String.toList_inj, toList_spelled, ← hsplit, joinWith_splitOn]
    · have hmem : tokenFile.toList ∈ splitOn ',' flag.toList := by simp [hsplit]
      exact not_mem_of_mem_splitOn hmem
    · have hmem : path.toList ∈ splitOn ',' flag.toList := by
        simp [hsplit, Option.mem_def.mp hpath]
      exact not_mem_of_mem_splitOn hmem

/-! ## 2. Reading -/

/-- A flag that is spelled is read as the value of its parts. -/
theorem parse_of_spells (h : Spells flag tokenFile ca) :
    parse flag = .ok (ofParts tokenFile ca) := by
  obtain ⟨hsplit, hnamed⟩ := spells_iff.mp h
  have hfile : (Path.ofString tokenFile).isEmpty = false :=
    Path.isEmpty_ofString_eq_false_iff.mpr hnamed
  rw [parse, hsplit]
  cases ca with
  | none =>
    simp only [String.ofList_toList, if_pos, Option.map_none, Option.toList_none]
    exact token_eq_ok_iff.mpr ⟨hfile, rfl⟩
  | some path =>
    simp only [String.ofList_toList, if_pos, Option.map_some, Option.toList_some]
    refine token_eq_ok_iff.mpr ⟨hfile, ?_⟩
    by_cases hpath : path = ""
    · subst hpath
      rfl
    · have hca : (Path.ofString path).isEmpty = false :=
        Path.isEmpty_ofString_eq_false_iff.mpr hpath
      simp [ofParts, Option.filter, hpath, hca]

/-- A flag with these parts, whose file is not named, is refused for this. -/
theorem token_of_unspelled {file : List Char} (bundle : Option (List Char))
    (hsplit : splitOn ',' flag.toList = scheme.toList :: file :: bundle.toList)
    (h : ¬ ∃ tokenFile ca, Spells flag tokenFile ca) (caFile : Option Path) :
    token (Path.ofString (String.ofList file)) caFile = .error .missingTokenFile := by
  have hfile : String.ofList file = "" := by
    refine Classical.byContradiction fun hnamed => h ⟨String.ofList file,
      bundle.map String.ofList, spells_iff.mpr ⟨?_, hnamed⟩⟩
    rw [hsplit, String.toList_ofList]
    cases bundle <;> simp
  rw [hfile]
  rfl

/-- A flag that spells nothing is refused, and its parts say why. -/
theorem parse_of_not_spells (h : ¬ ∃ tokenFile ca, Spells flag tokenFile ca) :
    parse flag = .error (refusal flag) := by
  have hfirst := head?_splitOn ',' flag.toList
  have hcount : (splitOn ',' flag.toList).length = partCount flag := length_splitOn ',' flag.toList
  cases hsplit : splitOn ',' flag.toList with
  | nil => exact absurd hsplit (splitOn_ne_nil ',' flag.toList)
  | cons first parameters =>
    rw [hsplit, List.head?_cons] at hfirst
    have hpart : String.ofList first = firstPart flag :=
      congrArg String.ofList (Option.some.inj hfirst)
    rw [hsplit, List.length_cons] at hcount
    rw [parse, hsplit, refusal, ← hpart, ← hcount]
    by_cases hscheme : String.ofList first = scheme
    · have hchars : first = scheme.toList := by rw [← hscheme, String.toList_ofList]
      rw [hchars] at hsplit
      simp only [hscheme, if_true]
      -- With one parameter or two, only the file can be at fault; the number is wrong otherwise.
      rcases parameters with _ | ⟨file, _ | ⟨bundle, _ | ⟨extra, more⟩⟩⟩
      · simp [scheme]
      · simpa [scheme] using token_of_unspelled none hsplit h _
      · simpa [scheme] using token_of_unspelled (some bundle) hsplit h _
      · simp [scheme]
    · have hother : String.ofList first ≠ "token" := hscheme
      simp only [hscheme, if_false, if_pos hother]

/-- So what is read was spelled. -/
theorem spells_of_parse (h : parse flag = .ok auth) :
    ∃ tokenFile ca, Spells flag tokenFile ca ∧ auth = ofParts tokenFile ca := by
  by_cases hspells : ∃ tokenFile ca, Spells flag tokenFile ca
  · obtain ⟨tokenFile, ca, hflag⟩ := hspells
    rw [parse_of_spells hflag] at h
    exact ⟨tokenFile, ca, hflag, (Except.ok.inj h).symm⟩
  · rw [parse_of_not_spells hspells] at h
    exact absurd h (by simp)

/-! ## 3. Writing -/

theorem text_ofParts (tokenFile : String) (ca : Option String) :
    (ofParts tokenFile ca).text =
      "token," ++ tokenFile ++ (ca.filter (· ≠ "")).elim "" ("," ++ ·) := by
  rw [text, ofParts, Path.display_ofString]
  cases ca.filter (· ≠ "") with
  | none => simp [scheme]
  | some path => simp [scheme, Path.display_ofString, String.append_assoc]

/-- What is written spells the parts that count. -/
theorem spells_text (h : Spells flag tokenFile ca) :
    Spells (ofParts tokenFile ca).text tokenFile (ca.filter (· ≠ "")) where
  flag_eq := text_ofParts tokenFile ca
  named := h.named
  tokenFile_plain := h.tokenFile_plain
  ca_plain path hpath := h.ca_plain path (Option.filter_eq_some_iff.mp hpath).1

/-- An empty bundle is the same as none. -/
theorem ofParts_filter (tokenFile : String) (ca : Option String) :
    ofParts tokenFile (ca.filter (· ≠ "")) = ofParts tokenFile ca := by
  simp [ofParts]

/-- What is written for a flag is the flag, without the comma before an empty bundle. -/
theorem text_of_spells (h : Spells flag tokenFile ca) :
    (ca ≠ some "" → (ofParts tokenFile ca).text = flag) ∧
      (ca = some "" → (ofParts tokenFile ca).text ++ "," = flag) := by
  rw [text_ofParts, h.flag_eq]
  constructor
  · intro hca
    cases ca with
    | none => rfl
    | some path =>
      have hpath : path ≠ "" := fun heq => hca (congrArg some heq)
      simp [Option.filter, hpath]
  · rintro rfl
    simp [Option.filter]

theorem isEmpty_of_mem_paths (h : Spells flag tokenFile ca) :
    ∀ path ∈ (ofParts tokenFile ca).paths, path.isEmpty = false := by
  intro path hpath
  rcases List.mem_cons.mp hpath with rfl | hpath
  · exact Path.isEmpty_ofString_eq_false_iff.mpr h.named
  · obtain ⟨part, hpart, rfl⟩ := Option.map_eq_some_iff.mp (Option.mem_toList.mp hpath)
    have hnamed := (Option.filter_eq_some_iff.mp hpart).2
    exact Path.isEmpty_ofString_eq_false_iff.mpr (of_decide_eq_true hnamed)

/-- **What is written for a value that was read is read as this value again.** -/
theorem parse_text_of_parse (h : parse flag = .ok auth) : parse auth.text = .ok auth := by
  obtain ⟨tokenFile, ca, hflag, rfl⟩ := spells_of_parse h
  rw [parse_of_spells (spells_text hflag), ofParts_filter]

/-- **A flag is read by its parts, and what is written for it is its normal form.**  It is read if
it spells the scheme, a file of a token and perhaps a bundle, and otherwise it is refused for the
first of three reasons: its scheme, the number of its parts, the file that is missing.  No path of
a value that was read is empty.  What is written for the value is the flag itself, but for the
comma before an empty bundle; it is read as the same value again, and two flags have one such text
when they mean one value. -/
theorem flags_are_read_by_their_parts (flag : String) :
    ((∃ auth, parse flag = .ok auth) ↔ ∃ tokenFile ca, Spells flag tokenFile ca) ∧
    ((¬ ∃ tokenFile ca, Spells flag tokenFile ca) → parse flag = .error (refusal flag)) ∧
    ∀ auth, parse flag = .ok auth →
      (∀ path ∈ auth.paths, path.isEmpty = false) ∧
      (∃ tokenFile ca, Spells flag tokenFile ca ∧ auth = ofParts tokenFile ca ∧
        (ca ≠ some "" → auth.text = flag) ∧ (ca = some "" → auth.text ++ "," = flag)) ∧
      parse auth.text = .ok auth ∧
      ∀ other again, parse other = .ok again → (again.text = auth.text ↔ again = auth) := by
  refine ⟨?_, ?_, ?_⟩
  · constructor
    · rintro ⟨auth, hparse⟩
      obtain ⟨tokenFile, ca, h, -⟩ := spells_of_parse hparse
      exact ⟨tokenFile, ca, h⟩
    · rintro ⟨tokenFile, ca, h⟩
      exact ⟨_, parse_of_spells h⟩
  · intro h
    exact parse_of_not_spells h
  · intro auth hparse
    refine ⟨?_, ?_, ?_, ?_⟩
    · obtain ⟨tokenFile, ca, h, rfl⟩ := spells_of_parse hparse
      exact isEmpty_of_mem_paths h
    · obtain ⟨tokenFile, ca, h, rfl⟩ := spells_of_parse hparse
      exact ⟨tokenFile, ca, h, rfl, text_of_spells h⟩
    · exact parse_text_of_parse hparse
    · intro other again hother
      constructor
      · intro htext
        have hread := parse_text_of_parse hother
        rw [htext, parse_text_of_parse hparse] at hread
        exact (Except.ok.inj hread).symm
      · rintro rfl
        rfl

/-- An empty bundle counts as a part and not as a path; the file before it is looked at last. -/
example :
    parse "token,a," = .ok ⟨Path.ofString "a", none⟩ ∧
      parse "token,,b" = .error .missingTokenFile ∧
      parse "token,,b,c" = .error .wrongParameterCount :=
  ⟨rfl, rfl, rfl⟩

end Auth
end RegionalDial
