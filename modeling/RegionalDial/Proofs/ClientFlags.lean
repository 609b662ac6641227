/-
# Flags of a client certificate

A client certificate and its key are named by two flags, and where only one of them were named,
making options would not look at it.  So reading a command line has to see to it that both are
there or none is.  It sees to it after all flags were read, on what they were set to, and therefore
in every order and in every spelling.

What is said is about the arguments themselves.  The fields of a target hold what the arguments give
to its flags (`fields_of_parse`), because each field is set by one flag only, and at most once
(`IsFieldOf`).
-/
import RegionalDial.Proofs.CommandLines
import RegionalDial.Proofs.Faults
import RegionalDial.Proofs.Plaintext
import RegionalDial.Proofs.Spelling

namespace RegionalDial
namespace Command

open Text

/-! ## 1. Fields and their flags -/

section Settings

variable {given result : Given} {settings : List (Flag × List UInt8)} {flag other : Flag}
  {value : List UInt8}

theorem setOnce_eq_some_iff {α : Type} {field value : Option α} {set : α → Given} :
    setOnce field value set = some result ↔
      field = none ∧ ∃ a, value = some a ∧ result = set a := by
  cases field with
  | none => cases value <;> simp [setOnce, eq_comm]
  | some a => simp [setOnce]

/-- A field belongs to a flag: it is read from the value of this flag, once, and is no other flag's
to set. -/
structure IsFieldOf {α : Type} (flag : Flag) (field : Given → Option α)
    (read : List UInt8 → Option α) : Prop where
  unset : field Given.nothing = none
  of_set {given result : Given} {value : List UInt8} (h : given.set flag value = some result) :
    field given = none ∧ ∃ a, read value = some a ∧ field result = some a
  of_set_other {given result : Given} {other : Flag} {value : List UInt8} (hother : other ≠ flag)
    (h : given.set other value = some result) : field result = field given

/-- A flag for authentication, of bytes. -/
def auth? (value : List UInt8) : Option Auth :=
  (Utf8.decode? value).bind fun text => (Auth.parse text).toOption

theorem auth?_eq_some_iff {auth : Auth} :
    auth? value = some auth ↔ ∃ text, Utf8.encode text = value ∧ Auth.parse text = .ok auth := by
  rw [auth?, Option.bind_eq_some_iff]
  refine exists_congr fun text => and_congr ?_ ?_
  · constructor
    · exact Utf8.encode_of_decode?
    · rintro rfl
      exact Utf8.decode?_encode text
  · cases Auth.parse text <;> simp [Except.toOption]

theorem path?_eq_some_iff {path : Path} :
    path? value = some path ↔ path.bytes = value ∧ path.isEmpty = false := by
  rw [path?]
  constructor
  · intro h
    split at h
    · exact absurd h (by simp)
    · rename_i hnamed
      obtain rfl := Option.some.inj h
      exact ⟨rfl, Bool.not_eq_true _ ▸ hnamed⟩
  · rintro ⟨rfl, hnamed⟩
    rw [Path.isEmpty] at hnamed
    simp only [hnamed, Bool.false_eq_true, if_false]

/-- A setting leaves the fields of the other flags alone. -/
theorem Given.frame_of_set (h : given.set other value = some result) :
    (other ≠ .auth → result.auth = given.auth) ∧
    (other ≠ .clientCert → result.clientCert = given.clientCert) ∧
    (other ≠ .clientKey → result.clientKey = given.clientKey) := by
  cases other with
  | plaintext =>
    simp only [Given.set] at h
    split at h
    · exact absurd h (by simp)
    · obtain rfl := Option.some.inj h
      exact ⟨fun _ => rfl, fun _ => rfl, fun _ => rfl⟩
  | auth =>
    obtain ⟨-, a, -, rfl⟩ := setOnce_eq_some_iff.mp h
    exact ⟨fun hother => absurd rfl hother, fun _ => rfl, fun _ => rfl⟩
  | clientCert =>
    obtain ⟨-, a, -, rfl⟩ := setOnce_eq_some_iff.mp h
    exact ⟨fun _ => rfl, fun hother => absurd rfl hother, fun _ => rfl⟩
  | clientKey =>
    obtain ⟨-, a, -, rfl⟩ := setOnce_eq_some_iff.mp h
    exact ⟨fun _ => rfl, fun _ => rfl, fun hother => absurd rfl hother⟩
  | _ =>
    obtain ⟨-, a, -, rfl⟩ := setOnce_eq_some_iff.mp h
    exact ⟨fun _ => rfl, fun _ => rfl, fun _ => rfl⟩

/-- A field that is set once, where the others are left alone, belongs to the flag. -/
theorem IsFieldOf.of_setOnce {α : Type} {field : Given → Option α} {read : List UInt8 → Option α}
    {put : Given → α → Given} (hunset : field Given.nothing = none)
    (hset : ∀ given value, given.set flag value = setOnce (field given) (read value) (put given))
    (hput : ∀ given a, field (put given a) = some a)
    (hframe : ∀ {given result : Given} {other : Flag} {value : List UInt8}, other ≠ flag →
      given.set other value = some result → field result = field given) :
    IsFieldOf flag field read where
  unset := hunset
  of_set h := by
    rw [hset] at h
    obtain ⟨hfirst, a, hread, rfl⟩ := setOnce_eq_some_iff.mp h
    exact ⟨hfirst, a, hread, hput _ a⟩
  of_set_other := hframe

theorem isFieldOf_auth : IsFieldOf .auth Given.auth auth? :=
  .of_setOnce rfl (fun _ _ => rfl) (fun _ _ => rfl) fun hother h => (Given.frame_of_set h).1 hother

theorem isFieldOf_clientCert : IsFieldOf .clientCert Given.clientCert path? :=
  .of_setOnce rfl (fun _ _ => rfl) (fun _ _ => rfl) fun hother h =>
    (Given.frame_of_set h).2.1 hother

theorem isFieldOf_clientKey : IsFieldOf .clientKey Given.clientKey path? :=
  .of_setOnce rfl (fun _ _ => rfl) (fun _ _ => rfl) fun hother h =>
    (Given.frame_of_set h).2.2 hother

namespace IsFieldOf

variable {α : Type} {field : Given → Option α} {read : List UInt8 → Option α}

/-- What a field holds after some settings was there before, or one of them has set it. -/
theorem eq_some_iff_of_setAll (hfield : IsFieldOf flag field read)
    (h : given.setAll settings = some result) {a : α} :
    field result = some a ↔
      field given = some a ∨ ∃ value, (flag, value) ∈ settings ∧ read value = some a := by
  induction settings generalizing given with
  | nil =>
    obtain rfl := Option.some.inj h
    simp
  | cons setting settings ih =>
    obtain ⟨other, value⟩ := setting
    obtain ⟨next, hset, hnext⟩ := Given.setAll_cons_eq_some_iff.mp h
    rw [ih hnext]
    by_cases hother : other = flag
    · subst hother
      obtain ⟨hunset, b, hread, hb⟩ := hfield.of_set hset
      simp only [hunset, hb, List.mem_cons, Prod.mk.injEq, true_and, or_and_right, exists_or,
        exists_eq_left, hread, reduceCtorEq, false_or]
    · have hflag : flag ≠ other := Ne.symm hother
      simp only [hfield.of_set_other hother hset, List.mem_cons, Prod.mk.injEq, hflag, false_and,
        false_or]

/-- Every value of the flag was read. -/
theorem exists_read_of_setAll (hfield : IsFieldOf flag field read)
    (h : given.setAll settings = some result) (hmem : (flag, value) ∈ settings) :
    ∃ a, read value = some a := by
  induction settings generalizing given with
  | nil => exact absurd hmem List.not_mem_nil
  | cons setting settings ih =>
    obtain ⟨next, hset, hnext⟩ := Given.setAll_cons_eq_some_iff.mp h
    rcases List.mem_cons.mp hmem with rfl | hmem
    · obtain ⟨-, a, hread, -⟩ := hfield.of_set hset
      exact ⟨a, hread⟩
    · exact ih hnext hmem

end IsFieldOf

end Settings

/-! ## 2. Targets -/

section Targets

variable {verb : Verb} {given : Given} {arguments : List (List UInt8)} {flag : Flag}
  {invocation : Invocation} {target : Target}

/-- The target of a command that has one. -/
def Invocation.target? : Invocation → Option Target
  | .resolve target _ => some target
  | .connect target => some target
  | .serve _ _ => none

/-- A command with a target has its flags, and the target is made of what they were set to. -/
theorem target_of_ofGiven (h : Invocation.ofGiven? verb given = some invocation)
    (htarget : invocation.target? = some target) :
    targetFlags ⊆ verb.flags ∧ given.target? = some target := by
  cases verb with
  | serve =>
    obtain ⟨path, -, rfl⟩ := Option.map_eq_some_iff.mp h
    exact absurd htarget (by simp [Invocation.target?])
  | resolve =>
    obtain ⟨found, hfound, rfl⟩ := Option.map_eq_some_iff.mp h
    obtain rfl := Option.some.inj htarget
    exact ⟨by simp [Verb.flags], hfound⟩
  | connect =>
    obtain ⟨found, hfound, rfl⟩ := Option.map_eq_some_iff.mp h
    obtain rfl := Option.some.inj htarget
    exact ⟨by simp [Verb.flags], hfound⟩

/-- **Two flags that need each other are given together or not at all.** -/
theorem Given.all_meets_iff :
    targetFlags.all given.meets = true ↔ given.clientCert.isSome = given.clientKey.isSome := by
  have hneeds : targetFlags.all given.meets =
      ((!given.clientCert.isSome || given.clientKey.isSome) &&
        (!given.clientKey.isSome || given.clientCert.isSome)) := by
    simp [targetFlags, meets, has, Flag.requires?]
  rw [hneeds]
  cases given.clientCert <;> cases given.clientKey <;> simp

/-- Of the two flags of a client certificate a target has both or none. -/
theorem Given.fields_of_target (h : given.target? = some target) :
    target.clientCert.isSome = target.clientKey.isSome ∧ target.auth = given.auth ∧
      target.clientCert = given.clientCert ∧ target.clientKey = given.clientKey := by
  rw [Given.target?] at h
  split at h
  · exact absurd h (by simp)
  · split at h
    · rename_i hboth
      obtain rfl := Option.some.inj h
      exact ⟨all_meets_iff.mp hboth, rfl, rfl, rfl⟩
    · exact absurd h (by simp)

/-! ## 3. What is given and what is held -/

/-- **What is given to a flag is what its field holds.**  The target of an accepted line is made of
fields, and a value given to the flag of one could be read and is what the field holds. -/
theorem fields_of_parse (h : Invocation.parse arguments = .ok invocation)
    (htarget : invocation.target? = some target) :
    ∃ given : Given, given.target? = some target ∧
      ∀ {α : Type} {flag : Flag} {field : Given → Option α} {read : List UInt8 → Option α},
        IsFieldOf flag field read → flag ∈ targetFlags → flag.takesValue = true →
        (∀ a, field given = some a ↔ ∃ value, Gives arguments flag value ∧ read value = some a) ∧
        ∀ value, Gives arguments flag value → ∃ a, read value = some a ∧ field given = some a := by
  obtain ⟨verb, rest, settings, given, rfl, hspells, hall, hfound⟩ := parse_eq_ok_iff.mp h
  obtain ⟨hflags, hgiven⟩ := target_of_ofGiven hfound htarget
  refine ⟨given, hgiven, fun {α flag field read} hfield hflag htakes => ?_⟩
  have hmem : flag ∈ verb.flags := hflags hflag
  have hletter : flag.letter? = none := by
    cases flag with
    | format => exact absurd hflag (by decide)
    | _ => rfl
  have hgives (value : List UInt8) :
      (flag, value) ∈ settings ↔ Gives (Utf8.encode verb.name :: rest) flag value := by
    rw [gives_cons_of_isWord verb.isWord_name hmem]
    exact hspells.mem_iff_gives hmem hletter htakes
  have hheld (a : α) : field given = some a ↔
      ∃ value, Gives (Utf8.encode verb.name :: rest) flag value ∧ read value = some a := by
    simp only [hfield.eq_some_iff_of_setAll hall, hfield.unset, reduceCtorEq, false_or, hgives]
  refine ⟨hheld, fun value hvalue => ?_⟩
  obtain ⟨a, hread⟩ := hfield.exists_read_of_setAll hall ((hgives value).mpr hvalue)
  exact ⟨a, hread, (hheld a).mpr ⟨value, hvalue, hread⟩⟩

/-- A path that is held has the bytes that were given. -/
theorem held_path_iff {held : Option Path}
    (hheld : ∀ path, held = some path ↔ ∃ value, Gives arguments flag value ∧
      path? value = some path)
    (hgiven : ∀ value, Gives arguments flag value → ∃ path, path? value = some path ∧
      held = some path) (value : List UInt8) :
    held = some ⟨value⟩ ↔ Gives arguments flag value := by
  constructor
  · intro h
    obtain ⟨given, hgives, hread⟩ := (hheld ⟨value⟩).mp h
    obtain ⟨rfl, -⟩ := path?_eq_some_iff.mp hread
    exact hgives
  · intro h
    obtain ⟨path, hread, hpath⟩ := hgiven value h
    obtain ⟨rfl, -⟩ := path?_eq_some_iff.mp hread
    exact hpath

theorem isSome_held_path_iff {held : Option Path}
    (h : ∀ value, held = some ⟨value⟩ ↔ Gives arguments flag value) :
    held.isSome = true ↔ ∃ value, Gives arguments flag value := by
  rw [Option.isSome_iff_exists]
  constructor
  · rintro ⟨path, hpath⟩
    exact ⟨path.bytes, (h path.bytes).mp hpath⟩
  · rintro ⟨value, hvalue⟩
    exact ⟨⟨value⟩, (h value).mpr hvalue⟩

/-! ## 4. The client identity -/

/-- The options present this client identity. -/
def Presents (options : Dial.Options) (identity : Dial.Identity) : Prop :=
  ∃ roots, options.tls = some ⟨roots, some identity⟩

/-- The options present what the files of the client hold, and nothing else. -/
theorem Target.presents_iff {files : File.System} {options : Dial.Options}
    (h : target.dialOptions files = .ok options) {identity : Dial.Identity} :
    Presents options identity ↔ target.identity files = .ok (some identity) := by
  have hkept : ∃ found, target.identity files = .ok found ∧
      (options.tls.bind Dial.Tls.identity) = found := by
    cases hauth : target.auth with
    | some auth =>
      obtain ⟨token, roots, found, -, -, hfound, rfl⟩ := options_of_auth hauth h
      exact ⟨found, hfound, rfl⟩
    | none =>
      obtain ⟨found, hfound, htls⟩ := tls_of_dialOptions hauth h
      refine ⟨found, hfound, ?_⟩
      rw [htls]
      cases found with
      | none => cases hplain : target.plaintext <;> simp [tlsWith, hplain]
      | some found => rfl
  obtain ⟨found, hfound, hsame⟩ := hkept
  rw [hfound, ← hsame, Presents]
  cases options.tls with
  | none => simp
  | some tls =>
    obtain ⟨roots, presented⟩ := tls
    simp

/-- Options that can be had present an identity if the flags name both of its files. -/
theorem Target.exists_presents_iff {files : File.System} {options : Dial.Options}
    (h : target.dialOptions files = .ok options) :
    (∃ identity, Presents options identity) ↔ target.namesIdentity = true := by
  obtain ⟨base, identity, -, hidentity, -⟩ := steps_of_dialOptions h
  simp only [presents_iff h, hidentity, Except.ok.injEq, ← isSome_of_identity hidentity,
    Option.isSome_iff_exists]

/-- The files of the client are read where both are named. -/
theorem Target.identity_eq_some_iff {files : File.System} {identity : Dial.Identity} :
    target.identity files = .ok (some identity) ↔ ∃ cert key, target.clientCert = some cert ∧
      target.clientKey = some key ∧ files.read cert = .ok identity.certificate ∧
      files.read key = .ok identity.key := by
  constructor
  · intro h
    rw [Target.identity] at h
    split at h
    · rename_i cert key hcert hkey
      split at h
      · exact absurd h (by simp)
      · rename_i certificate hcertificate
        split at h
        · exact absurd h (by simp)
        · rename_i content hcontent
          obtain rfl := Option.some.inj (Except.ok.inj h)
          exact ⟨cert, key, hcert, hkey, hcertificate, hcontent⟩
    · exact absurd h (by simp)
  · rintro ⟨cert, key, hcert, hkey, hcertificate, hcontent⟩
    rw [Target.identity, hcert, hkey]
    simp only [hcertificate, hcontent]

/-- **On an accepted command line no flag of a client certificate is ignored.**  A path for the
certificate is there if and only if one for the key is, and each is what the arguments give to its
flag.  A flag for authentication is what its text is read as, and it names no empty path.  So
whenever the options of the target can be had, they present a client identity exactly when either
of the two flags was given, and what it holds is in the files that were named. -/
theorem client_flags_are_given_together_and_heard
    (h : Invocation.parse arguments = .ok invocation) (htarget : invocation.target? = some target) :
    target.clientCert.isSome = target.clientKey.isSome ∧
    (∀ value, (target.clientCert = some ⟨value⟩ ↔ Gives arguments .clientCert value) ∧
      (target.clientKey = some ⟨value⟩ ↔ Gives arguments .clientKey value)) ∧
    (∀ auth, target.auth = some auth ↔
      ∃ text, Gives arguments .auth (Utf8.encode text) ∧ Auth.parse text = .ok auth) ∧
    (∀ value, Gives arguments .auth value → target.auth.isSome = true) ∧
    (∀ auth, target.auth = some auth → auth.tokenFile.isEmpty = false ∧
      ∀ path, auth.caFile = some path → path.isEmpty = false) ∧
    ∀ files options, target.dialOptions files = .ok options →
      ((∃ identity, Presents options identity) ↔
        (∃ value, Gives arguments .clientCert value) ∨
          ∃ value, Gives arguments .clientKey value) ∧
      ∀ identity, Presents options identity ↔ ∃ cert key, Gives arguments .clientCert cert ∧
        Gives arguments .clientKey key ∧ files.read ⟨cert⟩ = .ok identity.certificate ∧
        files.read ⟨key⟩ = .ok identity.key := by
  obtain ⟨given, hgiven, hfields⟩ := fields_of_parse h htarget
  obtain ⟨hboth, hauth, hcert, hkey⟩ := Given.fields_of_target hgiven
  obtain ⟨hauthHeld, hauthGiven⟩ := hfields isFieldOf_auth (by decide) rfl
  obtain ⟨hcertHeld, hcertGiven⟩ := hfields isFieldOf_clientCert (by decide) rfl
  obtain ⟨hkeyHeld, hkeyGiven⟩ := hfields isFieldOf_clientKey (by decide) rfl
  have hcerts (value : List UInt8) :
      target.clientCert = some ⟨value⟩ ↔ Gives arguments .clientCert value := by
    rw [hcert]
    exact held_path_iff hcertHeld hcertGiven value
  have hkeys (value : List UInt8) :
      target.clientKey = some ⟨value⟩ ↔ Gives arguments .clientKey value := by
    rw [hkey]
    exact held_path_iff hkeyHeld hkeyGiven value
  refine ⟨hboth, fun value => ⟨hcerts value, hkeys value⟩, ?_, ?_, ?_, ?_⟩
  · intro auth
    rw [hauth, hauthHeld]
    constructor
    · rintro ⟨value, hvalue, hread⟩
      obtain ⟨text, rfl, hparse⟩ := auth?_eq_some_iff.mp hread
      exact ⟨text, hvalue, hparse⟩
    · rintro ⟨text, htext, hparse⟩
      exact ⟨_, htext, auth?_eq_some_iff.mpr ⟨text, rfl, hparse⟩⟩
  · intro value hvalue
    obtain ⟨auth, -, hheld⟩ := hauthGiven value hvalue
    rw [hauth, hheld, Option.isSome_some]
  · intro auth hsome
    rw [hauth, hauthHeld] at hsome
    obtain ⟨value, -, hread⟩ := hsome
    obtain ⟨text, -, hparse⟩ := auth?_eq_some_iff.mp hread
    obtain ⟨tokenFile, ca, hspells, rfl⟩ := Auth.spells_of_parse hparse
    have hnamed := Auth.isEmpty_of_mem_paths hspells
    refine ⟨hnamed _ List.mem_cons_self, fun path hpath => hnamed path ?_⟩
    exact List.mem_cons_of_mem _ (Option.mem_toList.mpr hpath)
  · intro files options hoptions
    have hpresents (identity : Dial.Identity) : Presents options identity ↔
        ∃ cert key, Gives arguments .clientCert cert ∧ Gives arguments .clientKey key ∧
          files.read ⟨cert⟩ = .ok identity.certificate ∧ files.read ⟨key⟩ = .ok identity.key := by
      rw [Target.presents_iff hoptions, Target.identity_eq_some_iff]
      constructor
      · rintro ⟨⟨cert⟩, ⟨key⟩, hc, hk, hreads⟩
        exact ⟨cert, key, (hcerts cert).mp hc, (hkeys key).mp hk, hreads⟩
      · rintro ⟨cert, key, hc, hk, hreads⟩
        exact ⟨⟨cert⟩, ⟨key⟩, (hcerts cert).mpr hc, (hkeys key).mpr hk, hreads⟩
    refine ⟨?_, hpresents⟩
    rw [Target.exists_presents_iff hoptions, Target.namesIdentity, Bool.and_eq_true,
      ← isSome_held_path_iff hcerts, ← isSome_held_path_iff hkeys, hboth, and_self, or_self]

end Targets

/-- A command line with the key first and joined, the certificate last and apart, and other flags
between them. -/
def scatteredLine : List (List UInt8) :=
  ["connect", "--client-key=k", "--server", "e:1", "--auth", "token,t", "--client-cert", "c"].map
    Utf8.encode

/-- The target on this line. -/
def scatteredTarget : Target :=
  ⟨"e:1", some ⟨.ofString "t", none⟩, some (.ofString "c"), some (.ofString "k"), false, 30⟩

/-- Both flags of the client are given on this line, so its options present an identity. -/
theorem scattered_client_flags_are_heard :
    Invocation.parse scatteredLine = .ok (.connect scatteredTarget) ∧
      (Invocation.connect scatteredTarget).target? = some scatteredTarget ∧
      Gives scatteredLine .clientCert (Utf8.encode "c") ∧
      Gives scatteredLine .clientKey (Utf8.encode "k") ∧
      ∃ options, scatteredTarget.dialOptions assigningHost.files = .ok options ∧
        ∃ identity, Presents options identity := by
  have hparse : Invocation.parse scatteredLine = .ok (.connect scatteredTarget) := by
    decide +kernel
  have htarget : (Invocation.connect scatteredTarget).target? = some scatteredTarget := rfl
  obtain ⟨-, hpaths, -, -, -, hpresents⟩ :=
    client_flags_are_given_together_and_heard hparse htarget
  have hcert : Gives scatteredLine .clientCert (Utf8.encode "c") := (hpaths _).1.mp rfl
  have hkey : Gives scatteredLine .clientKey (Utf8.encode "k") := (hpaths _).2.mp rfl
  have hoptions : ∃ options, scatteredTarget.dialOptions assigningHost.files = .ok options :=
    ⟨_, rfl⟩
  obtain ⟨options, hoptions⟩ := hoptions
  have hpresented := (hpresents assigningHost.files options hoptions).1.mpr (.inl ⟨_, hcert⟩)
  exact ⟨hparse, htarget, hcert, hkey, options, hoptions, hpresented⟩

/-- One of the two alone is refused, wherever it stands and however it is spelled. -/
example :
    Invocation.parse (["connect", "--client-cert=c", "--server=e:1"].map Utf8.encode) =
        .error .usage ∧
      Invocation.parse (["resolve", "--server", "e:1", "--client-key", "k"].map Utf8.encode) =
        .error .usage := by
  decide +kernel

end Command
end RegionalDial
