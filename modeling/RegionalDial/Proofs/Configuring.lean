/-
# The options of a flag follow its token

A flag is used in two ways: to load its token, and to make options of it that hold this token and
TLS settings.  The second begins with the first, and what is wrong with a bundle is only told where
nothing is wrong with the token.

What else the options need are certificates to check a server against.  Either no bundle is named,
and those of the host are taken, or the bundle is read and sound (`Auth.Trusts`).  With a token and
with such certificates the options are determined (`Auth.configure_of_trusts`), and there are no
others (`Auth.trusts_of_configure`).
-/
import RegionalDial.Proofs.Connecting
import RegionalDial.Proofs.Sections

namespace RegionalDial
namespace Auth

/-- The certificates that a server is checked against under a flag. -/
inductive Trusts (files : File.System) (auth : Auth) : Dial.Roots → Prop
  | host (h : auth.caFile = none) : Trusts files auth .native
  | bundle {path : Path} {pem : List UInt8} (h : auth.caFile = some path)
      (hread : files.read path = .ok pem) (hsound : Pem.IsSound pem) :
      Trusts files auth (.bundle pem)

variable {files : File.System} {auth : Auth} {path : Path} {token : AccessToken}

/-! ## 1. Where it fails -/

/-- A fault in the token is all that is told. -/
theorem configure_of_credentials_error {error : Error}
    (h : auth.credentials files = .error error) : auth.configure files = .error error := by
  rw [configure, h]

theorem configure_of_unread_bundle {cause : File.Error}
    (htoken : auth.credentials files = .ok token) (hpath : auth.caFile = some path)
    (hread : files.read path = .error cause) : auth.configure files = .error (.readCa cause) := by
  have hload : loadCa files path = .error (.readCa cause) := by
    rw [loadCa, hread]
  rw [configure_of_loadCa hpath htoken, hload]
  rfl

theorem configure_of_unsound_bundle {bundle : List UInt8}
    (htoken : auth.credentials files = .ok token) (hpath : auth.caFile = some path)
    (hread : files.read path = .ok bundle) (hsound : ¬ Pem.IsSound bundle) :
    auth.configure files = .error (.invalidCa path) := by
  rw [configure_of_loadCa hpath htoken, loadCa_of_not_isSound hread hsound]
  rfl

/-! ## 2. Where it succeeds -/

/-- **With a token and certificates to check a server against, the options hold both, and nothing
besides.** -/
theorem configure_of_trusts {roots : Dial.Roots} (htoken : auth.credentials files = .ok token)
    (hroots : Trusts files auth roots) :
    auth.configure files = .ok ⟨some ⟨roots, none⟩, some token, none, none⟩ := by
  cases hroots with
  | host h =>
    rw [configure, htoken, secured, h]
    rfl
  | bundle h hread hsound =>
    rw [configure_of_loadCa h htoken, loadCa_of_isSound hread hsound]
    rfl

/-- **Options are only had with both.** -/
theorem trusts_of_configure {options : Dial.Options} (h : auth.configure files = .ok options) :
    ∃ token roots, auth.credentials files = .ok token ∧ Trusts files auth roots := by
  cases htoken : auth.credentials files with
  | error error => exact absurd (h.symm.trans (configure_of_credentials_error htoken)) (by simp)
  | ok token =>
    cases hpath : auth.caFile with
    | none => exact ⟨token, .native, rfl, .host hpath⟩
    | some path =>
      cases hread : files.read path with
      | error cause =>
        exact absurd (h.symm.trans (configure_of_unread_bundle htoken hpath hread)) (by simp)
      | ok bundle =>
        by_cases hsound : Pem.IsSound bundle
        · exact ⟨token, .bundle bundle, rfl, .bundle hpath hread hsound⟩
        · exact absurd (h.symm.trans (configure_of_unsound_bundle htoken hpath hread hsound))
            (by simp)

theorem exists_trusts_iff : (∃ roots, Trusts files auth roots) ↔
    auth.caFile = none ∨ ∃ path bundle, auth.caFile = some path ∧
      files.read path = .ok bundle ∧ Pem.IsSound bundle := by
  constructor
  · rintro ⟨roots, h | ⟨h, hread, hsound⟩⟩
    · exact .inl h
    · exact .inr ⟨_, _, h, hread, hsound⟩
  · rintro (h | ⟨path, bundle, h, hread, hsound⟩)
    · exact ⟨_, .host h⟩
    · exact ⟨_, .bundle h hread hsound⟩

/-- **Making options of a flag agrees with loading its token.**  Where the token cannot be loaded,
the options fail with the same error, whatever the bundle is.  Otherwise they fail with the bundle,
if one is named that cannot be read or is not sound.  And otherwise they can be had: they use TLS,
have no limits, and attach exactly the header of the token that is loaded. -/
theorem configure_follows_credentials (files : File.System) (auth : Auth) :
    (∀ error, auth.credentials files = .error error → auth.configure files = .error error) ∧
    (∀ token, auth.credentials files = .ok token →
      (∀ path, auth.caFile = some path →
        (∀ cause, files.read path = .error cause →
          auth.configure files = .error (.readCa cause)) ∧
        (∀ bundle, files.read path = .ok bundle → ¬ Pem.IsSound bundle →
          auth.configure files = .error (.invalidCa path))) ∧
      ∀ roots, auth.Trusts files roots →
        ∃ options, auth.configure files = .ok options ∧
          options.usesTls = true ∧ options.tls = some ⟨roots, none⟩ ∧
          options.connectTimeout = none ∧ options.requestTimeout = none ∧
          ∀ headers, (options.interceptor.apply headers).values AccessToken.headerKey =
            [token.headerValue]) ∧
    ((∃ options, auth.configure files = .ok options) ↔
      (∃ token, auth.credentials files = .ok token) ∧
        (auth.caFile = none ∨ ∃ path bundle, auth.caFile = some path ∧
          files.read path = .ok bundle ∧ Pem.IsSound bundle)) := by
  refine ⟨?_, ?_, ?_⟩
  · intro error h
    exact configure_of_credentials_error h
  · intro token htoken
    constructor
    · intro path hpath
      constructor
      · intro cause hread
        exact configure_of_unread_bundle htoken hpath hread
      · intro bundle hread hsound
        exact configure_of_unsound_bundle htoken hpath hread hsound
    · intro roots hroots
      let options : Dial.Options := ⟨some ⟨roots, none⟩, some token, none, none⟩
      refine ⟨options, configure_of_trusts htoken hroots, rfl, rfl, rfl, rfl, ?_⟩
      intro headers
      exact (options.interceptor_attaches headers).1
  · rw [← exists_trusts_iff]
    constructor
    · rintro ⟨options, h⟩
      obtain ⟨token, roots, htoken, hroots⟩ := trusts_of_configure h
      exact ⟨⟨token, htoken⟩, roots, hroots⟩
    · rintro ⟨⟨token, htoken⟩, roots, hroots⟩
      exact ⟨_, configure_of_trusts htoken hroots⟩

/-- A blank token hides that the bundle holds no certificate. -/
example :
    (⟨Path.ofString "t", some (Path.ofString "ca")⟩ : Auth).configure ⟨fun _ => .ok [0x20]⟩ =
      .error .emptyToken :=
  rfl

end Auth
end RegionalDial
