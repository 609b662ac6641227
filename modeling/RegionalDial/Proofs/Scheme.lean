/-
# Which scheme an address gets

The scheme of an address is read off the start of its text (`Uri.scheme?_of_parse?`), and the text
of a target that names no scheme starts with the one in use.  So under TLS settings a target means
a secure address in two cases and in no other: it names no scheme, or it names `https` itself, in
any case of the letters (`Dial.Options.scheme?_eq_https_iff`).  A target that names another scheme
keeps it, TLS settings or not.
-/
import RegionalDial.Dial.Options

namespace RegionalDial
namespace Uri

/-! ## 1. The start of a text -/

theorem length_of_lowered {start : List Char} {known : String}
    (h : start.map Char.toLower = known.toList) : start.length = known.length := by
  rw [← String.length_toList, ← h, List.length_map]

theorem afterIgnoringCase?_eq_some_iff {known : String} {cs rest : List Char} :
    afterIgnoringCase? known cs = some rest ↔
      ∃ start, cs = start ++ rest ∧ start.map Char.toLower = known.toList := by
  simp only [afterIgnoringCase?]
  constructor
  · intro h
    split at h
    · rename_i hstart
      refine ⟨cs.take known.length, ?_, hstart⟩
      rw [← Option.some.inj h, List.take_append_drop]
    · exact absurd h (by simp)
  · rintro ⟨start, rfl, hstart⟩
    rw [← length_of_lowered hstart, List.take_left, List.drop_left, if_pos hstart]

/-- A text that starts in both of two ways starts in the longer one by starting in the shorter. -/
theorem isPrefix_of_afterIgnoringCase? {short long : String} {cs rest rest' : List Char}
    (hshort : afterIgnoringCase? short cs = some rest)
    (hlong : afterIgnoringCase? long cs = some rest') (hlength : short.length ≤ long.length) :
    short.toList <+: long.toList := by
  obtain ⟨start, rfl, hstart⟩ := afterIgnoringCase?_eq_some_iff.mp hshort
  obtain ⟨start', heq, hstart'⟩ := afterIgnoringCase?_eq_some_iff.mp hlong
  have hle : start.length ≤ start'.length := by
    rw [length_of_lowered hstart, length_of_lowered hstart']
    exact hlength
  have hprefix : start <+: start' :=
    List.prefix_of_prefix_length_le (List.prefix_append start rest) ⟨rest', heq.symm⟩ hle
  rw [← hstart, ← hstart']
  exact hprefix.map Char.toLower

/-! ## 2. The scheme of a text -/

/-- A name that is read character by character and is this one stands at the start. -/
theorem afterIgnoringCase?_of_takeWhile {cs rest : List Char}
    (hname : cs.takeWhile isSchemeChar = "https".toList)
    (hrest : cs.dropWhile isSchemeChar = ':' :: '/' :: '/' :: rest) :
    afterIgnoringCase? "https://" cs = some rest := by
  have htext : cs = "https://".toList ++ rest := by
    rw [← List.takeWhile_append_dropWhile (p := isSchemeChar) (l := cs), hname, hrest]
    rfl
  exact afterIgnoringCase?_eq_some_iff.mpr ⟨_, htext, by decide⟩

/-- The scheme is `https` when the text starts with it and for no other reason. -/
theorem splitScheme?_eq_https_iff {cs : List Char} :
    (splitScheme? cs).map (fun split => String.ofList split.1) = some "https" ↔
      (afterIgnoringCase? "https://" cs).isSome = true := by
  rw [splitScheme?]
  cases hplain : afterIgnoringCase? "http://" cs with
  | some rest =>
    constructor
    · intro h
      change some (String.ofList "http".toList) = some "https" at h
      exact absurd h (by decide)
    · intro h
      obtain ⟨rest', hrest'⟩ := Option.isSome_iff_exists.mp h
      have hprefix := isPrefix_of_afterIgnoringCase? hplain hrest' (by decide)
      exact absurd hprefix (by decide)
  | none =>
    cases hsecure : afterIgnoringCase? "https://" cs with
    | some rest => simp
    | none =>
      refine ⟨fun h => ?_, fun h => absurd h (by simp)⟩
      -- A name that is read character by character cannot be this one: the text would start with
      -- it, and then it would have been known.
      exfalso
      obtain ⟨⟨name, after⟩, hsplit, hname⟩ := Option.map_eq_some_iff.mp h
      simp only at hsplit
      split at hsplit
      · rename_i rest hrest
        split at hsplit
        · simp only [Option.some.injEq, Prod.mk.injEq] at hsplit
          obtain ⟨rfl, rfl⟩ := hsplit
          have hlist : cs.takeWhile isSchemeChar = "https".toList := by
            rw [← hname, String.toList_ofList]
          have hstart := afterIgnoringCase?_of_takeWhile hlist hrest
          exact absurd (hsecure.symm.trans hstart) (by simp)
        · exact absurd hsplit (by simp)
      · exact absurd hsplit (by simp)

/-- The rest of an address has no say in its origin. -/
theorem origin_of_withRest? {origin : Option Origin} {cs : List Char} {uri : Uri}
    (h : withRest? origin cs = some uri) : uri.origin = origin := by
  obtain ⟨_, -, rfl⟩ := Option.map_eq_some_iff.mp h
  rfl

theorem scheme?_of_absolute? {cs : List Char} {uri : Uri} (h : absolute? cs = some uri) :
    uri.scheme? = (splitScheme? cs).map fun split => String.ofList split.1 := by
  rw [absolute?] at h
  split at h
  · exact absurd h (by simp)
  · rename_i scheme rest hsplit
    simp only at h
    split at h
    · rw [scheme?, origin_of_withRest? h, hsplit]
      rfl
    · exact absurd h (by simp)

/-- **The scheme of an address is the one its text starts with**, and a path alone has none. -/
theorem scheme?_of_parse? {s : String} {uri : Uri} (h : parse? s = some uri) :
    uri.scheme? = (splitScheme? s.toList).map fun split => String.ofList split.1 := by
  rw [parse?] at h
  split at h
  · exact absurd h (by simp)
  · split at h
    · rename_i rest hslash
      rw [scheme?, origin_of_withRest? h, hslash]
      rfl
    · exact scheme?_of_absolute? h

/-! ## 3. The scheme of a target -/

/-- Under TLS settings the target means a secure address: it names no scheme, or `https`. -/
def IsSecureTarget (target : String) : Prop :=
  namesScheme target.toList = false ∨
    (afterIgnoringCase? "https://" target.toList).isSome = true

instance (target : String) : Decidable (IsSecureTarget target) :=
  inferInstanceAs (Decidable (_ ∨ _))

theorem isSome_afterIgnoringCase?_addressOf {target : String} :
    (afterIgnoringCase? "https://" (addressOf true target).toList).isSome = true ↔
      IsSecureTarget target := by
  rw [addressOf, IsSecureTarget]
  split
  · rename_i hnames
    simp [hnames]
  · rename_i hbare
    have hstart : afterIgnoringCase? "https://" ("https://" ++ target).toList =
        some target.toList :=
      afterIgnoringCase?_eq_some_iff.mpr ⟨"https://".toList, String.toList_append, by decide⟩
    rw [if_pos rfl, hstart]
    simp [hbare]

/-- The address of a target that names no scheme starts with the one in use. -/
theorem splitScheme?_addressOf {secure : Bool} {target : String}
    (hbare : namesScheme target.toList = false) :
    (splitScheme? (addressOf secure target).toList).map (fun split => String.ofList split.1) =
      some (if secure then "https" else "http") := by
  cases secure with
  | true =>
    exact splitScheme?_eq_https_iff.mpr (isSome_afterIgnoringCase?_addressOf.mpr (.inl hbare))
  | false =>
    have hstart : afterIgnoringCase? "http://" ("http://" ++ target).toList = some target.toList :=
      afterIgnoringCase?_eq_some_iff.mpr ⟨"http://".toList, String.toList_append, by decide⟩
    rw [addressOf, hbare, if_neg (by simp), if_neg (by simp), splitScheme?, hstart]
    rfl

end Uri

/-- An address that is not refused is the meaning of its target. -/
theorem Dial.Options.parse?_of_endpoint {options : Dial.Options} {target : String} {uri : Uri}
    (h : options.endpoint target = .ok uri) :
    Uri.parse? (Uri.addressOf options.usesTls target) = some uri := by
  rw [endpoint] at h
  split at h
  · exact absurd h (by simp)
  · rename_i uri' hread
    split at h
    · rw [← Except.ok.inj h]
      exact hread
    · exact absurd h (by simp)

/-- A target that names no scheme is reached by TLS where there are TLS settings, and plainly where
there are none. -/
theorem Dial.Options.scheme?_of_bare {options : Dial.Options} {target : String} {uri : Uri}
    (hbare : Uri.namesScheme target.toList = false) (h : options.endpoint target = .ok uri) :
    uri.scheme? = some (if options.usesTls then "https" else "http") := by
  rw [Uri.scheme?_of_parse? (parse?_of_endpoint h), Uri.splitScheme?_addressOf hbare]

/-- **Under TLS settings, an address is secure where the target names no scheme or names
`https`**, and nowhere else. -/
theorem Dial.Options.scheme?_eq_https_iff {options : Dial.Options} {target : String} {uri : Uri}
    (htls : options.usesTls = true) (h : options.endpoint target = .ok uri) :
    uri.scheme? = some "https" ↔ Uri.IsSecureTarget target := by
  have hread := parse?_of_endpoint h
  rw [htls] at hread
  rw [Uri.scheme?_of_parse? hread, Uri.splitScheme?_eq_https_iff,
    Uri.isSome_afterIgnoringCase?_addressOf]

end RegionalDial
