/-
# What a target means

A target is bare, or it names a scheme somewhere in its text.

* **Bare.**  Under its options a bare target means what it means with their scheme before it.  Its
  text up to a slash, a `?` or a `#` is the authority, and what is left of it before a `#` is the
  rest of the address (`Dial.Options.bare_target_is_read_literally`).
* **An address as a target.**  An address is kept when it is a target again, under the same
  options (`Dial.Options.address_is_kept_as_target`).  There is one way to lose it.  The mark of a
  scheme is looked for in the whole text of a target, its fragment too, and a text that starts with
  a slash is a path alone.  So a path with the mark in its fragment, and nowhere else, is a target
  that can be read; its address is the bare path, which cannot
  (`Dial.Options.path_is_lost_without_its_fragment`).
-/
import RegionalDial.Proofs.Addresses

namespace RegionalDial

/-! ## 1. Bare targets -/

namespace Uri

variable {secure : Bool} {target : String}

/-- The scheme of an address under TLS settings, or without. -/
def schemeInUse (secure : Bool) : String := if secure then "https" else "http"

theorem isSchemeName_schemeInUse (secure : Bool) : IsSchemeName (schemeInUse secure).toList := by
  cases secure with
  | false => exact (schemeOf_common (.inl rfl)).1
  | true => exact (schemeOf_common (.inr rfl)).1

/-- The address of a bare target, in parts. -/
def bareParts (secure : Bool) (target : String) : Parts :=
  .cut (schemeInUse secure).toList (isSchemeName_schemeInUse secure) target.toList

theorem origin_bareParts : (bareParts secure target).origin =
    ⟨schemeInUse secure, String.ofList (bareParts secure target).authority⟩ := by
  cases secure <;> rfl

theorem toList_bare :
    (schemeInUse secure ++ "://" ++ target).toList = (bareParts secure target).text := by
  rw [String.toList_append, String.toList_append, bareParts, Parts.text_cut]
  rfl

/-- A target with a scheme before it names a scheme, so it is not changed. -/
theorem addressOf_written (secure : Bool) (scheme target : String) :
    addressOf secure (scheme ++ "://" ++ target) = scheme ++ "://" ++ target := by
  have hmark : mark <:+: (scheme ++ "://" ++ target).toList := by
    rw [String.toList_append, String.toList_append]
    exact ⟨scheme.toList, target.toList, rfl⟩
  rw [addressOf, namesScheme_eq_true_iff.mpr hmark, if_pos rfl]

theorem addressOf_bare (hbare : ¬ mark <:+: target.toList) :
    addressOf secure target = schemeInUse secure ++ "://" ++ target := by
  rw [addressOf, namesScheme_eq_false_iff.mpr hbare]
  cases secure <;> rfl

/-- **A bare target is read in its parts.** -/
theorem ofTarget?_bare (hbare : ¬ mark <:+: target.toList) {uri : Uri} :
    ofTarget? secure target = some uri ↔
      (schemeInUse secure ++ "://" ++ target).utf8ByteSize ≤ longest ∧
        isAuthority (bareParts secure target).authority = true ∧
        withRest? (some (bareParts secure target).origin) (bareParts secure target).rest =
          some uri := by
  rw [ofTarget?, addressOf_bare hbare, parse?_eq_some_iff, toList_bare,
    if_neg (bareParts secure target).head?_text, Parts.absolute?_text]
  refine and_congr_right fun _ => ?_
  split
  · rename_i hauthority
    exact (and_iff_right hauthority).symm
  · rename_i hauthority
    exact ⟨fun h => absurd h (by simp), fun h => absurd h.1 hauthority⟩

/-- No authority is empty. -/
theorem ne_nil_of_isAuthority {cs : List Char} (h : isAuthority cs = true) : cs ≠ [] := by
  rintro rfl
  exact absurd h (by decide)

/-- What follows an authority is written as it was read, and a slash before it where it has no
path. -/
theorem writtenRest_of_parts {parts : Parts} {uri : Uri}
    (h : withRest? (some parts.origin) parts.rest = some uri) :
    let rest := parts.rest.takeWhile (· ≠ '#')
    uri.writtenRest = if rest.head? = some '/' then rest else '/' :: rest := by
  intro rest
  obtain ⟨-, -, htext⟩ := withRest?_eq_some_iff.mp h
  have hrest : rest = uri.restText := htext
  rcases parts.head?_path h with hpath | hpath
  · have hquery : rest = writtenQuery (uri.query.map String.toList) := by
      rw [hrest, restText, hpath, List.nil_append]
    have hslash : rest.head? ≠ some '/' := by
      rw [hquery]
      cases uri.query <;> simp [writtenQuery]
    rw [if_neg hslash, writtenRest, hpath, hquery]
    rfl
  · have hne : uri.path.toList ≠ [] := by
      intro hnil
      rw [hnil] at hpath
      exact absurd hpath (by simp)
    have hslash : rest.head? = some '/' := by
      rw [hrest, restText, List.head?_append, hpath, Option.some_or]
    rw [if_pos hslash, hrest, restText, writtenRest, writtenPath, if_neg hne]

end Uri

namespace Dial

/-- The same error about another target. -/
def Error.about (target : String) : Error → Error
  | .invalidEndpoint _ => .invalidEndpoint target
  | .tls _ => .tls target
  | .connect _ => .connect target
  | .invalidToken => .invalidToken

namespace Options

variable {options : Options} {target : String} {uri : Uri}

theorem endpoint_eq_ok_iff :
    options.endpoint target = .ok uri ↔
      Uri.ofTarget? options.usesTls target = some uri ∧
        options.tls.all (fun tls => tls.fits uri) = true := by
  rw [endpoint]
  cases Uri.ofTarget? options.usesTls target with
  | none => simp
  | some read =>
    simp only
    split
    · rename_i hfits
      constructor
      · intro h
        obtain rfl := Except.ok.inj h
        exact ⟨rfl, hfits⟩
      · rintro ⟨h, -⟩
        rw [Option.some.inj h]
    · rename_i hfits
      refine ⟨fun h => absurd h (by simp), ?_⟩
      rintro ⟨h, hfits'⟩
      rw [← Option.some.inj h] at hfits'
      exact absurd hfits' hfits

/-- Targets that are read alike end alike, and an error is about the target that was given. -/
theorem endpoint_of_ofTarget?_eq {other : String}
    (h : Uri.ofTarget? options.usesTls other = Uri.ofTarget? options.usesTls target) :
    options.endpoint other = (options.endpoint target).mapError (Error.about other) := by
  rw [endpoint, endpoint, h]
  cases Uri.ofTarget? options.usesTls target with
  | none => rfl
  | some read =>
    simp only
    split <;> rfl

/-- **A bare target is read literally.**  It has the outcome that it has with the scheme in use
before it.  The authority of its address is what stands before the first slash, `?` or `#`, which
is something, and after it comes what is left before the first `#`, with a slash put in where no
path is.  Of the options, the TLS settings alone have a say. -/
theorem bare_target_is_read_literally (options : Options) {target : String}
    (hbare : ¬ "://".toList <:+: target.toList) :
    let scheme := if options.usesTls then "https" else "http"
    let authority := target.toList.takeWhile (!Uri.endsAuthority ·)
    let rest := (target.toList.dropWhile (!Uri.endsAuthority ·)).takeWhile (· ≠ '#')
    options.endpoint (scheme ++ "://" ++ target) =
      (options.endpoint target).mapError (Error.about (scheme ++ "://" ++ target)) ∧
    (∀ uri, options.endpoint target = .ok uri →
      uri.origin = some ⟨scheme, String.ofList authority⟩ ∧ authority ≠ [] ∧
      uri.text = scheme ++ "://" ++ String.ofList authority ++
        String.ofList (if rest.head? = some '/' then rest else '/' :: rest)) ∧
    ∀ other : Options, other.tls = options.tls →
      other.endpoint target = options.endpoint target := by
  intro scheme authority rest
  refine ⟨endpoint_of_ofTarget?_eq ?_, fun uri h => ?_, fun other htls => ?_⟩
  · rw [Uri.ofTarget?, Uri.addressOf_written, Uri.ofTarget?, Uri.addressOf_bare hbare]
    rfl
  · obtain ⟨-, hauthority, hread⟩ := (Uri.ofTarget?_bare hbare).mp (endpoint_eq_ok_iff.mp h).1
    have horigin : uri.origin = some ⟨scheme, String.ofList authority⟩ := by
      rw [(Uri.withRest?_eq_some_iff.mp hread).1, Uri.origin_bareParts]
      rfl
    refine ⟨horigin, Uri.ne_nil_of_isAuthority hauthority, String.toList_injective ?_⟩
    rw [Uri.toList_text, horigin, Uri.writtenRest_of_parts hread, String.toList_append,
      String.toList_ofList]
    rfl
  · have hsecure : other.usesTls = options.usesTls := congrArg Option.isSome htls
    rw [endpoint, endpoint, hsecure, htls]

/-- A user, two colons, a query with a slash in it and a fragment are all left in their places. -/
theorem bare_target_with_user_and_query :
    ¬ "://".toList <:+: "u:p@h:1?x=:/y#z".toList ∧
      ∃ uri, (plaintext.withTls Tls.plain).endpoint "u:p@h:1?x=:/y#z" = .ok uri ∧
        uri.origin = some ⟨"https", "u:p@h:1"⟩ ∧ uri.text = "https://u:p@h:1/?x=:/y" := by
  have hbare : ¬ "://".toList <:+: "u:p@h:1?x=:/y#z".toList :=
    Uri.namesScheme_eq_false_iff.mp (by decide)
  have hread : (plaintext.withTls Tls.plain).endpoint "u:p@h:1?x=:/y#z" =
      .ok ⟨some ⟨"https", "u:p@h:1"⟩, "", some "x=:/y"⟩ := by decide
  obtain ⟨-, hliteral, -⟩ := bare_target_is_read_literally (plaintext.withTls Tls.plain) hbare
  obtain ⟨horigin, -, htext⟩ := hliteral _ hread
  refine ⟨hbare, _, hread, horigin.trans (by decide), htext.trans (by decide)⟩

end Options
end Dial

/-! ## 2. An address as a target -/

namespace Uri

variable {secure : Bool} {target : String} {uri : Uri}

/-- A target that starts with a slash names a scheme and is a path alone: what stands before its
fragment. -/
theorem path_of_ofTarget? (hslash : target.toList.head? = some '/')
    (h : ofTarget? secure target = some uri) :
    mark <:+: target.toList ∧ uri.origin = none ∧
      uri.text.toList = target.toList.takeWhile (· ≠ '#') := by
  have hmark : mark <:+: target.toList := by
    by_contra hbare
    obtain ⟨-, hauthority, -⟩ := (ofTarget?_bare hbare).mp h
    obtain ⟨rest, hrest⟩ := List.head?_eq_some_iff.mp hslash
    refine ne_nil_of_isAuthority hauthority ?_
    simp [bareParts, Parts.cut, hrest, endsAuthority]
  rw [ofTarget?, addressOf, namesScheme_eq_true_iff.mpr hmark, if_pos rfl, parse?_eq_some_iff,
    if_pos hslash] at h
  obtain ⟨horigin, -, htext⟩ := withRest?_eq_some_iff.mp h.2
  have hpath : uri.path.toList ≠ [] := by
    intro hnil
    have hhead := head?_path_of_slash hslash h.2
    rw [hnil] at hhead
    exact absurd hhead (by simp)
  refine ⟨hmark, horigin, ?_⟩
  rw [htext, toList_text, horigin, ← restText_written, written_of_path_ne_nil hpath]
  rfl

/-- Every other target has an origin. -/
theorem exists_origin_of_ofTarget? (hslash : target.toList.head? ≠ some '/')
    (h : ofTarget? secure target = some uri) : ∃ origin, uri.origin = some origin := by
  by_cases hmark : mark <:+: target.toList
  · rw [ofTarget?, addressOf, namesScheme_eq_true_iff.mpr hmark, if_pos rfl, parse?_eq_some_iff,
      if_neg hslash] at h
    obtain ⟨parts, -, -, hread⟩ := Parts.exists_of_absolute? h.2
    exact ⟨_, (withRest?_eq_some_iff.mp hread).1⟩
  · obtain ⟨-, -, hread⟩ := (ofTarget?_bare hmark).mp h
    exact ⟨_, (withRest?_eq_some_iff.mp hread).1⟩

/-- The text of an address that has an origin names its scheme. -/
theorem mark_isInfix_text {origin : Origin} (h : uri.origin = some origin) :
    mark <:+: uri.text.toList := by
  refine ⟨origin.scheme.toList, origin.authority.toList ++ uri.writtenRest, ?_⟩
  rw [toList_text, h, Option.elim_some, Origin.text, String.toList_append, String.toList_append,
    mark, List.append_assoc (_ ++ _)]

/-- **An address is read as itself where its text names a scheme.** -/
theorem ofTarget?_text (h : ofTarget? secure target = some uri)
    (hsize : uri.text.utf8ByteSize ≤ longest) (hmark : mark <:+: uri.text.toList) :
    ofTarget? secure uri.text = some uri.written := by
  rw [ofTarget?, addressOf, namesScheme_eq_true_iff.mpr hmark, if_pos rfl]
  exact parse?_text h hsize

end Uri

namespace Dial.Options

variable {options : Options} {target : String} {uri : Uri}

theorem endpoint_of_unread (h : Uri.ofTarget? options.usesTls target = none) :
    options.endpoint target = .error (.invalidEndpoint target) := by
  rw [endpoint, h]

theorem endpoint_text (h : options.endpoint target = .ok uri)
    (hsize : uri.text.utf8ByteSize ≤ Uri.longest) (hmark : Uri.mark <:+: uri.text.toList) :
    options.endpoint uri.text = .ok uri.written := by
  obtain ⟨hread, hfits⟩ := endpoint_eq_ok_iff.mp h
  -- The settings have to fit the origin, and this stays.
  exact endpoint_eq_ok_iff.mpr ⟨Uri.ofTarget?_text hread hsize hmark, hfits⟩

/-- **Under TLS settings, a target that names a scheme starts with it and keeps it.**  The mark
alone, in a path or a query, is no scheme, and then the target is refused. -/
theorem scheme?_of_named (htls : options.usesTls = true) (hnames : "://".toList <:+: target.toList)
    (h : options.endpoint target = .ok uri) :
    ∃ name rest, Uri.IsSchemeName name ∧ target.toList = name ++ "://".toList ++ rest ∧
      uri.scheme? = some (String.ofList (Uri.schemeOf name)) := by
  have hread := parse?_of_endpoint h
  rw [Uri.addressOf, Uri.namesScheme_eq_true_iff.mpr hnames, if_pos rfl] at hread
  -- The settings fit an origin, and an origin has a scheme.
  have hscheme : uri.scheme?.isSome = true := by
    obtain ⟨tls, htls⟩ := Option.isSome_iff_exists.mp htls
    have hfits := (endpoint_eq_ok_iff.mp h).2
    rw [htls, Option.all_some, Tls.fits, Bool.and_eq_true] at hfits
    obtain ⟨origin, horigin⟩ := Option.isSome_iff_exists.mp (Option.isSome_of_any hfits.2)
    rw [Uri.scheme?, horigin]
    rfl
  rw [Uri.scheme?_of_parse? hread, Option.isSome_map] at hscheme
  obtain ⟨⟨scheme, rest⟩, hsplit⟩ := Option.isSome_iff_exists.mp hscheme
  obtain ⟨name, hname, hcs, rfl⟩ := Uri.exists_name_of_splitScheme? hsplit
  refine ⟨name, rest, hname, hcs, ?_⟩
  rw [Uri.scheme?_of_parse? hread, hsplit, Option.map_some]

/-- **An address is kept when it is a target again**, with the same text and the same origin, unless
it was a path that names a scheme in its fragment only.  The path without its fragment is no
target. -/
theorem address_is_kept_as_target (options : Options) {target : String} {uri : Uri}
    (h : options.endpoint target = .ok uri) (hsize : uri.text.utf8ByteSize ≤ Uri.longest) :
    let lost := target.toList.head? = some '/' ∧
      ¬ "://".toList <:+: target.toList.takeWhile (· ≠ '#')
    (¬ lost → options.endpoint uri.text = .ok uri.written ∧ uri.written.text = uri.text ∧
      uri.written.origin = uri.origin ∧ uri.written.query = uri.query) ∧
    (lost → options.endpoint uri.text = .error (.invalidEndpoint uri.text)) := by
  intro lost
  obtain ⟨hread, -⟩ := endpoint_eq_ok_iff.mp h
  refine ⟨fun hkept => ⟨endpoint_text h hsize ?_, uri.text_written, rfl, rfl⟩,
    fun ⟨hslash, hlost⟩ => ?_⟩
  · by_cases hslash : target.toList.head? = some '/'
    · rw [(Uri.path_of_ofTarget? hslash hread).2.2]
      by_contra hlost
      exact hkept ⟨hslash, hlost⟩
    · obtain ⟨origin, horigin⟩ := Uri.exists_origin_of_ofTarget? hslash hread
      exact Uri.mark_isInfix_text horigin
  · obtain ⟨-, -, htext⟩ := Uri.path_of_ofTarget? hslash hread
    have hstart : uri.text.toList.head? = some '/' := by
      obtain ⟨rest, hrest⟩ := List.head?_eq_some_iff.mp hslash
      rw [htext, hrest]
      rfl
    refine endpoint_of_unread (Option.eq_none_iff_forall_ne_some.mpr fun again hagain => hlost ?_)
    rw [← htext]
    exact (Uri.path_of_ofTarget? hstart hagain).1

/-- The scheme is written small, the slash of the empty path stands, the fragment is gone, and all
of it stays so. -/
theorem address_with_query_is_kept :
    plaintext.endpoint "HTTP://h?q#f" = .ok ⟨some ⟨"http", "h"⟩, "", some "q"⟩ ∧
      plaintext.endpoint "http://h/?q" = .ok ⟨some ⟨"http", "h"⟩, "/", some "q"⟩ := by
  have hread : plaintext.endpoint "HTTP://h?q#f" =
      .ok ⟨some ⟨"http", "h"⟩, "", some "q"⟩ := by decide
  obtain ⟨hkept, -⟩ := address_is_kept_as_target plaintext hread (by decide)
  exact ⟨hread, (hkept fun hlost => absurd hlost.1 (by decide)).1⟩

/-- **A path is lost without its fragment.**  The first target is read as a path, because its
fragment names a scheme, and what is read is no target. -/
theorem path_is_lost_without_its_fragment :
    plaintext.endpoint "/a#://b" = .ok ⟨none, "/a", none⟩ ∧
      (⟨none, "/a", none⟩ : Uri).text = "/a" ∧
      plaintext.endpoint "/a" = .error (.invalidEndpoint "/a") := by
  decide

end Dial.Options
end RegionalDial
