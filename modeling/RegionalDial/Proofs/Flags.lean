/-
# Which values have a flag

A flag is text, with commas between the paths in it and nothing to escape them.  So there are paths
that no flag can name: those that are no text, and those that hold a comma.  All others can be
named, and what is written for them is read back byte by byte.

Two values are the same when their paths have the same components, and paths that differ byte by
byte may well be the same.  Still no value with a path of the first kind is the same as one that was
read from a flag, because **whether a path can be written is decided by its components alone**
(`Path.isPlain_iff_names`): a slash is text and no comma, and neither is a `.` or an empty name.

The bytes come in at one place only.  A slash is one byte and stands in no other character
(`Text.Utf8.eq_of_mem_utf8EncodeChar`), so a text is split at its slashes as its bytes are, and a
name that is no text cannot come about by splitting.
-/
import RegionalDial.Auth

namespace RegionalDial

open Text

/-! ## 1. Text without commas -/

/-- The comma. -/
def comma : UInt8 := 0x2C

/-- Are the bytes those of a text, and without a comma? -/
structure IsPlain (bytes : List UInt8) : Prop where
  isText : (Utf8.decode? bytes).isSome = true
  no_comma : comma ∉ bytes

namespace IsPlain

variable {a b bytes : List UInt8}

theorem encode {s : String} (h : ',' ∉ s.toList) : IsPlain (Utf8.encode s) := by
  refine ⟨by rw [Utf8.decode?_encode, Option.isSome_some], fun hmem => h ?_⟩
  rw [Utf8.encode_eq_flatMap] at hmem
  obtain ⟨c, hc, hcomma⟩ := List.mem_flatMap.mp hmem
  have hsame : c = ',' := Utf8.eq_of_mem_utf8EncodeChar (by decide) hcomma
  exact hsame ▸ hc

/-- Plain bytes are those of a text that holds no comma. -/
theorem exists_encode (h : IsPlain bytes) : ∃ s, Utf8.encode s = bytes ∧ ',' ∉ s.toList := by
  obtain ⟨s, hs⟩ := Option.isSome_iff_exists.mp h.isText
  have hbytes := Utf8.encode_of_decode? hs
  refine ⟨s, hbytes, fun hmem => h.no_comma ?_⟩
  rw [← hbytes, Utf8.encode_eq_flatMap]
  exact List.mem_flatMap.mpr ⟨',', hmem, List.mem_singleton.mpr rfl⟩

theorem append (ha : IsPlain a) (hb : IsPlain b) : IsPlain (a ++ b) := by
  obtain ⟨s, rfl, hs⟩ := ha.exists_encode
  obtain ⟨t, rfl, ht⟩ := hb.exists_encode
  rw [← Utf8.encode_append]
  refine encode fun hmem => ?_
  rw [String.toList_append, List.mem_append] at hmem
  exact hmem.elim hs ht

theorem nil : IsPlain [] := ⟨by decide, by simp⟩

end IsPlain

/-! ## 2. Paths -/

namespace Path

variable {a b path : Path}

theorem isPlain_separator : IsPlain [separator] := ⟨by decide, by decide⟩

theorem isPlain_here : IsPlain here := ⟨by decide, by decide⟩

/-- Plain parts make a plain path. -/
theorem isPlain_joinWith {parts : List (List UInt8)} (h : ∀ part ∈ parts, IsPlain part) :
    IsPlain (joinWith separator parts) := by
  induction parts with
  | nil => exact .nil
  | cons part parts ih =>
    have hpart := h part List.mem_cons_self
    cases parts with
    | nil => exact hpart
    | cons next more =>
      have hmore := ih fun part hmem => h part (List.mem_cons_of_mem _ hmem)
      exact hpart.append (isPlain_separator.append hmore)

/-- The parts of a text are the texts between its slashes. -/
theorem parts_ofString (s : String) : (ofString s).parts =
    (splitOn '/' s.toList).map fun part => Utf8.encode (String.ofList part) := by
  have hslash : '/'.val.toNat ≤ 127 := by decide
  have hparts : splitOn separator (s.toList.flatMap String.utf8EncodeChar) = _ :=
    splitOn_flatMap (Utf8.utf8EncodeChar_ascii hslash)
      (fun c hc => Utf8.eq_of_mem_utf8EncodeChar hslash hc) s.toList
  simpa only [parts, ofString, Utf8.encode_eq_flatMap, String.toList_ofList] using hparts

/-- A plain path has plain parts. -/
theorem isPlain_of_mem_parts (h : IsPlain path.bytes) {part : List UInt8}
    (hpart : part ∈ path.parts) : IsPlain part := by
  obtain ⟨s, hs, hcomma⟩ := h.exists_encode
  have hpath : path = ofString s := by rw [ofString, hs]
  rw [hpath, parts_ofString] at hpart
  obtain ⟨chars, hchars, rfl⟩ := List.mem_map.mp hpart
  refine .encode fun hmem => hcomma ?_
  rw [String.toList_ofList] at hmem
  rw [← joinWith_splitOn '/' s.toList]
  exact subset_joinWith hchars hmem

theorem name_mem_components {name : List UInt8} :
    Component.name name ∈ path.components ↔ name ∈ path.parts ∧ name ≠ [] ∧ name ≠ here := by
  have hstart : Component.name name ∉ (if path.isAbsolute then [Component.root]
      else if path.parts.head? = some here then [Component.here] else []) := by
    split
    · simp
    · split <;> simp
  simp [components, hstart]

/-- **A path is plain if the names in it are.** -/
theorem isPlain_iff_names :
    IsPlain path.bytes ↔ ∀ name, Component.name name ∈ path.components → IsPlain name := by
  constructor
  · exact fun h name hname => isPlain_of_mem_parts h (name_mem_components.mp hname).1
  · intro h
    rw [← joinWith_splitOn separator path.bytes]
    refine isPlain_joinWith fun part hpart => ?_
    -- A part that is no name is empty or a dot.
    by_cases hnil : part = []
    · exact hnil ▸ .nil
    by_cases hhere : part = here
    · exact hhere ▸ isPlain_here
    · exact h part (name_mem_components.mpr ⟨hpart, hnil, hhere⟩)

/-- So one of two paths that are the same is plain if the other is. -/
theorem isPlain_of_same (h : a.same b = true) (hb : IsPlain b.bytes) : IsPlain a.bytes := by
  have hcomponents : a.components = b.components := eq_of_beq h
  rw [isPlain_iff_names, hcomponents]
  exact isPlain_iff_names.mp hb

/-- A plain path is shown as it is. -/
theorem ofString_display (h : IsPlain path.bytes) :
    ofString path.display = path ∧ ',' ∉ path.display.toList := by
  obtain ⟨s, hs, hcomma⟩ := h.exists_encode
  have hdisplay : path.display = s := by rw [display, ← hs, Utf8.decodeLossy_encode]
  rw [hdisplay]
  exact ⟨by rw [ofString, hs], hcomma⟩

end Path

/-! ## 3. Flags -/

namespace Auth

variable {auth : Auth}

/-- The paths of a value. -/
def paths (auth : Auth) : List Path := auth.tokenFile :: auth.caFile.toList

/-- A value is stored with the file of its token as it is given, and a bundle if that is named. -/
theorem token_eq_ok_iff {tokenFile : Path} {caFile : Option Path} :
    token tokenFile caFile = .ok auth ↔
      tokenFile.isEmpty = false ∧ auth = ⟨tokenFile, caFile.filter fun path => !path.isEmpty⟩ := by
  rw [token]
  cases tokenFile.isEmpty with
  | true => simp
  | false => simp [eq_comm]

/-- What is stored is stored as it is again. -/
theorem token_of_token {tokenFile : Path} {caFile : Option Path}
    (h : token tokenFile caFile = .ok auth) : token auth.tokenFile auth.caFile = .ok auth := by
  obtain ⟨hnamed, rfl⟩ := token_eq_ok_iff.mp h
  exact token_eq_ok_iff.mpr ⟨hnamed, by simp⟩

/-- The flag is the scheme and the paths, with commas between them. -/
theorem toList_text :
    auth.text.toList = joinWith ',' (scheme.toList :: auth.paths.map (·.display.toList)) := by
  cases hca : auth.caFile <;> simp [text, paths, hca, joinWith]

theorem paths_subset_of_token {tokenFile : Path} {caFile : Option Path}
    (h : token tokenFile caFile = .ok auth) : auth.paths ⊆ tokenFile :: caFile.toList := by
  obtain ⟨-, rfl⟩ := token_eq_ok_iff.mp h
  intro path hpath
  simp only [paths, List.mem_cons, Option.mem_toList, Option.filter_eq_some_iff] at hpath ⊢
  exact hpath.imp id And.left

/-- **Every path that is read from a flag is plain.** -/
theorem isPlain_of_parse {flag : String} (h : parse flag = .ok auth) :
    ∀ path ∈ auth.paths, IsPlain path.bytes := by
  have hpart : ∀ part ∈ splitOn ',' flag.toList,
      IsPlain (Path.ofString (String.ofList part)).bytes := fun part hmem =>
    .encode (String.toList_ofList ▸ not_mem_of_mem_splitOn hmem)
  rw [parse] at h
  split at h
  · exact absurd h (by simp)
  rename_i first parameters hsplit
  rw [hsplit] at hpart
  split at h
  · intro path hpath
    split at h
    · have hmem := paths_subset_of_token h hpath
      simp only [Option.toList_none, List.mem_singleton] at hmem
      exact hmem ▸ hpart _ (by simp)
    · have hmem := paths_subset_of_token h hpath
      simp only [Option.toList_some, List.mem_cons, List.not_mem_nil, or_false] at hmem
      rcases hmem with rfl | rfl <;> exact hpart _ (by simp)
    · exact absurd h (by simp)
  · exact absurd h (by simp)

/-- **Only values with plain paths are the same as a value with plain paths.** -/
theorem isPlain_of_same {other : Auth} (h : auth.same other = true)
    (hother : ∀ path ∈ other.paths, IsPlain path.bytes) :
    ∀ path ∈ auth.paths, IsPlain path.bytes := by
  obtain ⟨tokenFile, caFile⟩ := auth
  obtain ⟨otherFile, otherCa⟩ := other
  simp only [same, Bool.and_eq_true] at h
  have htoken : IsPlain tokenFile.bytes :=
    Path.isPlain_of_same h.1 (hother otherFile List.mem_cons_self)
  intro path hpath
  rcases List.mem_cons.mp hpath with rfl | hpath
  · exact htoken
  · cases caFile with
    | none => exact absurd hpath (by simp)
    | some ca =>
      cases otherCa with
      | none => exact absurd h.2 (by simp)
      | some other =>
        rw [Option.toList_some, List.mem_singleton] at hpath
        exact hpath ▸ Path.isPlain_of_same h.2 (hother other (by simp [paths]))

/-- **Plain paths are read back from their flag.** -/
theorem parse_text {tokenFile : Path} {caFile : Option Path}
    (h : token tokenFile caFile = .ok auth) (hplain : ∀ path ∈ auth.paths, IsPlain path.bytes) :
    parse auth.text = .ok auth := by
  have hcomma : ∀ part ∈ scheme.toList :: auth.paths.map (·.display.toList), ',' ∉ part := by
    intro part hpart
    rcases List.mem_cons.mp hpart with rfl | hpart
    · decide
    · obtain ⟨path, hpath, rfl⟩ := List.mem_map.mp hpart
      exact (Path.ofString_display (hplain path hpath)).2
  have hread : ∀ path ∈ auth.paths, Path.ofString path.display = path := fun path hpath =>
    (Path.ofString_display (hplain path hpath)).1
  have hagain := token_of_token h
  rw [parse, toList_text, splitOn_joinWith (by simp) hcomma]
  obtain ⟨tokenFile, caFile⟩ := auth
  cases caFile with
  | none => simpa [paths, hread tokenFile (by simp [paths])] using hagain
  | some ca =>
    simpa [paths, hread tokenFile (by simp [paths]), hread ca (by simp [paths])] using hagain

/-- **A value is read back from its flag if its paths are text without commas, and else it has no
flag at all.**  In the first case it is the same value byte by byte, and in the second one no flag
is read as a value that is the same component by component. -/
theorem flags_stand_for_plain_paths_alone {tokenFile : Path} {caFile : Option Path}
    (h : token tokenFile caFile = .ok auth) :
    ((∀ path ∈ auth.paths, (Utf8.decode? path.bytes).isSome = true ∧ comma ∉ path.bytes) →
      parse auth.text = .ok auth) ∧
    ((∃ path ∈ auth.paths, Utf8.decode? path.bytes = none ∨ comma ∈ path.bytes) →
      ∀ flag again, parse flag = .ok again → auth.same again = false) := by
  constructor
  · intro hplain
    exact parse_text h fun path hpath => ⟨(hplain path hpath).1, (hplain path hpath).2⟩
  · rintro ⟨path, hpath, hbad⟩ flag again hparse
    refine Bool.eq_false_iff.mpr fun hsame => ?_
    have hplain := isPlain_of_same hsame (isPlain_of_parse hparse) path hpath
    rcases hbad with hbad | hbad
    · exact absurd hplain.isText (by simp [hbad])
    · exact hplain.no_comma hbad

/-- Two values with one flag, of which it stands for the one without a comma in a path; and a path
that is no text, which is shown as another. -/
theorem flag_with_two_paths_is_not_one_path :
    let two : Auth := ⟨.ofString "t", some (.ofString "c")⟩
    let one : Auth := ⟨.ofString "t,c", none⟩
    let broken : Auth := ⟨⟨[0x74, 0xFF]⟩, none⟩
    (token (.ofString "t") (some (.ofString "c")) = .ok two ∧ parse two.text = .ok two) ∧
    (token (.ofString "t,c") none = .ok one ∧ one.text = two.text ∧ one.same two = false) ∧
    token ⟨[0x74, 0xFF]⟩ none = .ok broken ∧
      ∀ again, parse broken.text = .ok again → broken.same again = false := by
  intro two one broken
  have htwo : token (.ofString "t") (some (.ofString "c")) = .ok two :=
    token_eq_ok_iff.mpr ⟨by decide, rfl⟩
  have hone : token (.ofString "t,c") none = .ok one := token_eq_ok_iff.mpr ⟨by decide, rfl⟩
  have hbroken : token ⟨[0x74, 0xFF]⟩ none = .ok broken := token_eq_ok_iff.mpr ⟨by decide, rfl⟩
  have hread : parse two.text = .ok two :=
    (flags_stand_for_plain_paths_alone htwo).1 (List.forall_mem_cons.mpr ⟨by decide, by decide⟩)
  have hcomma := (flags_stand_for_plain_paths_alone hone).2
    ⟨_, List.mem_cons_self, .inr (by decide)⟩
  have hbytes := (flags_stand_for_plain_paths_alone hbroken).2
    ⟨_, List.mem_cons_self, .inl (by decide)⟩
  exact ⟨⟨htwo, hread⟩, ⟨hone, by decide, hcomma _ two hread⟩, hbroken, hbytes _⟩

end Auth
end RegionalDial
