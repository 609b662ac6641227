/-
# What diagnostics tell of a token

Options describe themselves, and what goes wrong with a flag is told in messages.  Neither says
anything about the text of a token.  Both facts are about two runs that differ in this text.

* **Descriptions.**  Two runs of steps that differ in the texts of accepted tokens build options
  that differ in nothing but these (`SameButToken.build`), and two tokens are described alike.
* **Errors.**  Two systems of files in which the same reads fail, and fail alike, may differ in all
  that is read (`File.System.FailAlike`); in the content of a token's file, for one, under
  whatever paths it is found.  An error with which a flag fails tells which check failed and on
  which path, and of what was read nothing: two errors of one kind are one error
  (`Auth.eq_of_sameKind_of_configure`).
-/
import RegionalDial.Command.Target
import RegionalDial.Proofs.Building

namespace RegionalDial

/-! ## 1. Descriptions -/

namespace Dial.Options

/-- Two steps that differ at most in the texts of their tokens, both of which are accepted. -/
inductive Step.SameButToken : Step → Step → Prop
  | same (step : Step) : SameButToken step step
  | token {a b : String} (ha : AccessToken.isAcceptable a = true)
      (hb : AccessToken.isAcceptable b = true) : SameButToken (.token a) (.token b)

/-- Two options that differ at most in their tokens. -/
structure SameButToken (a b : Options) : Prop where
  tls : a.tls = b.tls
  hasToken : a.token.isSome = b.token.isSome
  connectTimeout : a.connectTimeout = b.connectTimeout
  requestTimeout : a.requestTimeout = b.requestTimeout

namespace SameButToken

variable {a b : Options}

theorem refl (options : Options) : options.SameButToken options := ⟨rfl, rfl, rfl, rfl⟩

/-- **A step keeps options the same but for their tokens.** -/
theorem apply (h : a.SameButToken b) {step other : Step} (hstep : step.SameButToken other) :
    (a.apply step).SameButToken (b.apply other) := by
  cases hstep with
  | same =>
    refine ⟨?_, ?_, ?_, ?_⟩
    · rw [tls_apply, tls_apply, h.tls]
    · rw [token_apply, token_apply, Option.isSome_or, Option.isSome_or, h.hasToken]
    · rw [connectTimeout_apply, connectTimeout_apply, h.connectTimeout]
    · rw [requestTimeout_apply, requestTimeout_apply, h.requestTimeout]
  | token ha hb =>
    simp only [Options.apply, AccessToken.ofString, ha, hb, dif_pos]
    exact ⟨h.tls, rfl, h.connectTimeout, h.requestTimeout⟩

/-- **So does a run of steps.** -/
theorem foldl_apply {steps others : List Step}
    (hsteps : List.Forall₂ Step.SameButToken steps others) (h : a.SameButToken b) :
    (steps.foldl Options.apply a).SameButToken (others.foldl Options.apply b) := by
  induction hsteps generalizing a b with
  | nil => exact h
  | cons hstep _ ih => exact ih (h.apply hstep)

theorem build {steps others : List Step} (hsteps : List.Forall₂ Step.SameButToken steps others) :
    (Options.build steps).SameButToken (Options.build others) :=
  foldl_apply hsteps (refl plaintext)

/-- The tokens are described in the same words. -/
theorem map_description_eq (h : a.SameButToken b) :
    a.token.map AccessToken.description = b.token.map AccessToken.description := by
  have hsome := h.hasToken
  cases ha : a.token with
  | none =>
    rw [ha, Option.isSome_none, eq_comm, Option.isSome_eq_false_iff, Option.isNone_iff_eq_none]
      at hsome
    rw [hsome]
  | some token =>
    rw [ha, Option.isSome_some, eq_comm, Option.isSome_iff_exists] at hsome
    obtain ⟨other, hb⟩ := hsome
    rw [hb, Option.map_some, Option.map_some, token.description_eq other]

theorem description_eq (h : a.SameButToken b) : a.description = b.description := by
  have htls : a.usesTls = b.usesTls := congrArg Option.isSome h.tls
  unfold description
  rw [htls, h.connectTimeout, h.requestTimeout, h.map_description_eq]

theorem interceptor_description_eq (h : a.SameButToken b) :
    a.interceptor.description = b.interceptor.description := by
  have htoken : a.interceptor.token.map AccessToken.description =
      b.interceptor.token.map AccessToken.description := h.map_description_eq
  unfold Interceptor.description
  rw [htoken]

end SameButToken
end Dial.Options

/-! ## 2. Errors of a flag -/

/-- The same reads fail, and fail alike; what is read where one succeeds may differ. -/
def File.System.FailAlike (a b : File.System) : Prop :=
  ∀ path error, a.read path = .error error ↔ b.read path = .error error

/-- The files with one content under all of some names. -/
def File.System.rewritten (files : File.System) (names : Path → Bool) (content : List UInt8) :
    File.System :=
  ⟨fun path => if names path then .ok content else files.read path⟩

/-- Two contents of one file, whatever names lead to it, are such a difference. -/
theorem File.System.failAlike_rewritten (files : File.System) (names : Path → Bool)
    (first second : List UInt8) :
    (files.rewritten names first).FailAlike (files.rewritten names second) := by
  intro path error
  simp only [rewritten]
  split
  · simp
  · exact Iff.rfl

theorem File.System.FailAlike.cause_eq {a b : File.System} (h : a.FailAlike b) {path : Path}
    {cause₁ cause₂ : File.Error} (h₁ : a.read path = .error cause₁)
    (h₂ : b.read path = .error cause₂) : cause₁ = cause₂ :=
  Except.error.inj (((h path cause₁).mp h₁).symm.trans h₂)

namespace Auth

/-- Two errors of one kind: the same check failed. -/
def Error.SameKind : Error → Error → Prop
  | .unknownScheme _, .unknownScheme _ => True
  | .wrongParameterCount, .wrongParameterCount => True
  | .missingTokenFile, .missingTokenFile => True
  | .readToken _, .readToken _ => True
  | .emptyToken, .emptyToken => True
  | .readCa _, .readCa _ => True
  | .invalidCa _, .invalidCa _ => True
  | .dial _, .dial _ => True
  | _, _ => False

/-- The errors that the content of a token's file can lead to. -/
inductive Error.OfContent : Error → Prop
  | notText : OfContent (.readToken .notText)
  | empty : OfContent .emptyToken
  | invalid : OfContent (.dial .invalidToken)

theorem Error.OfContent.eq_of_sameKind {e₁ e₂ : Error} (h₁ : e₁.OfContent)
    (hkind : e₁.SameKind e₂) (h₂ : e₂.OfContent) : e₁ = e₂ :=
  match h₁, h₂ with
  | .notText, .notText => rfl
  | .empty, .empty => rfl
  | .invalid, .invalid => rfl

variable {files a b : File.System} {auth : Auth} {error e₁ e₂ : Error}

/-- A token's file that was read leads to one of three errors. -/
theorem ofContent_of_credentials {bytes : List UInt8}
    (hread : files.read auth.tokenFile = .ok bytes) (h : auth.credentials files = .error error) :
    error.OfContent := by
  rw [credentials, File.System.readText, hread] at h
  cases htext : Text.Utf8.decode? bytes with
  | none =>
    simp only [htext] at h
    obtain rfl := Except.error.inj h
    exact .notText
  | some text =>
    simp only [htext, tokenOfText] at h
    split at h
    · obtain rfl := Except.error.inj h
      exact .empty
    · split at h
      · exact absurd h (by simp)
      · rename_i cause hcause
        obtain rfl := Except.error.inj h
        rw [AccessToken.ofString] at hcause
        split at hcause
        · exact absurd hcause (by simp)
        · obtain rfl := Except.error.inj hcause
          exact .invalid

/-- A token's file is not read, or its content is refused. -/
theorem credentials_error (h : auth.credentials files = .error error) :
    (∃ cause, files.read auth.tokenFile = .error cause ∧ error = .readToken cause) ∨
      (∃ bytes, files.read auth.tokenFile = .ok bytes) ∧ error.OfContent := by
  cases hread : files.read auth.tokenFile with
  | error cause =>
    rw [credentials, File.System.readText, hread] at h
    exact .inl ⟨cause, rfl, (Except.error.inj h).symm⟩
  | ok bytes => exact .inr ⟨⟨bytes, rfl⟩, ofContent_of_credentials hread h⟩

/-- **Errors of one kind from two contents of a token's file are the same error.** -/
theorem eq_of_sameKind_of_credentials (hfiles : a.FailAlike b)
    (h₁ : auth.credentials a = .error e₁) (h₂ : auth.credentials b = .error e₂)
    (hkind : e₁.SameKind e₂) : e₁ = e₂ := by
  rcases credentials_error h₁ with ⟨cause₁, hread₁, rfl⟩ | ⟨⟨bytes₁, hread₁⟩, hof₁⟩
  · rcases credentials_error h₂ with ⟨cause₂, hread₂, rfl⟩ | ⟨⟨bytes₂, hread₂⟩, -⟩
    · rw [hfiles.cause_eq hread₁ hread₂]
    · exact absurd (((hfiles _ _).mp hread₁).symm.trans hread₂) (by simp)
  · rcases credentials_error h₂ with ⟨cause₂, hread₂, rfl⟩ | ⟨-, hof₂⟩
    · exact absurd (((hfiles _ _).mpr hread₂).symm.trans hread₁) (by simp)
    · exact hof₁.eq_of_sameKind hkind hof₂

/-- A bundle is not read, or it is refused under the name of its path. -/
theorem loadCa_error {path : Path} (h : loadCa files path = .error error) :
    (∃ cause, files.read path = .error cause ∧ error = .readCa cause) ∨
      error = .invalidCa path := by
  rw [loadCa] at h
  split at h
  · rename_i cause hread
    exact .inl ⟨cause, hread, (Except.error.inj h).symm⟩
  · split at h
    · exact absurd h (by simp)
    · exact .inr (Except.error.inj h).symm

theorem eq_of_sameKind_of_loadCa (hfiles : a.FailAlike b) {path : Path}
    (h₁ : loadCa a path = .error e₁) (h₂ : loadCa b path = .error e₂) (hkind : e₁.SameKind e₂) :
    e₁ = e₂ := by
  rcases loadCa_error h₁ with ⟨cause₁, hread₁, rfl⟩ | rfl
  · rcases loadCa_error h₂ with ⟨cause₂, hread₂, rfl⟩ | rfl
    · rw [hfiles.cause_eq hread₁ hread₂]
    · exact hkind.elim
  · rcases loadCa_error h₂ with ⟨cause₂, hread₂, rfl⟩ | rfl
    · exact hkind.elim
    · rfl

/-- What fails is the token, or else the bundle. -/
theorem configure_error (h : auth.configure files = .error error) :
    auth.credentials files = .error error ∨
      ∃ path, auth.caFile = some path ∧ loadCa files path = .error error := by
  rw [configure] at h
  split at h
  · rename_i cause htoken
    obtain rfl := Except.error.inj h
    exact .inl htoken
  · split at h
    · rename_i cause hbase
      obtain rfl := Except.error.inj h
      rw [secured] at hbase
      split at hbase
      · exact absurd hbase (by simp)
      · rename_i path hpath
        split at hbase
        · exact absurd hbase (by simp)
        · rename_i cause' hload
          obtain rfl := Except.error.inj hbase
          exact .inr ⟨path, hpath, hload⟩
    · exact absurd h (by simp)

/-- An error of a token and one of a bundle are of two kinds. -/
theorem not_sameKind_of_loadCa {path : Path} (h₁ : auth.credentials a = .error e₁)
    (h₂ : loadCa b path = .error e₂) : ¬ e₁.SameKind e₂ ∧ ¬ e₂.SameKind e₁ := by
  rcases loadCa_error h₂ with ⟨cause, -, rfl⟩ | rfl
  · rcases credentials_error h₁ with ⟨cause, -, rfl⟩ | ⟨-, hof⟩
    · exact ⟨id, id⟩
    · cases hof <;> exact ⟨id, id⟩
  · rcases credentials_error h₁ with ⟨cause, -, rfl⟩ | ⟨-, hof⟩
    · exact ⟨id, id⟩
    · cases hof <;> exact ⟨id, id⟩

/-- **Errors of one kind from two contents of the files a flag names are the same error.** -/
theorem eq_of_sameKind_of_configure (hfiles : a.FailAlike b)
    (h₁ : auth.configure a = .error e₁) (h₂ : auth.configure b = .error e₂)
    (hkind : e₁.SameKind e₂) : e₁ = e₂ := by
  rcases configure_error h₁ with htoken₁ | ⟨path₁, hpath₁, hload₁⟩
  · rcases configure_error h₂ with htoken₂ | ⟨path₂, hpath₂, hload₂⟩
    · exact eq_of_sameKind_of_credentials hfiles htoken₁ htoken₂ hkind
    · exact absurd hkind (not_sameKind_of_loadCa htoken₁ hload₂).1
  · rcases configure_error h₂ with htoken₂ | ⟨path₂, hpath₂, hload₂⟩
    · exact absurd hkind (not_sameKind_of_loadCa htoken₂ hload₁).2
    · obtain rfl := Option.some.inj (hpath₁.symm.trans hpath₂)
      exact eq_of_sameKind_of_loadCa hfiles hload₁ hload₂ hkind

end Auth

/-! ## 3. Errors of a target -/

namespace Command

/-- Two errors of one kind: the same check failed, in the flag if it was there. -/
def TargetError.SameKind : TargetError → TargetError → Prop
  | .auth _ cause₁, .auth _ cause₂ => cause₁.SameKind cause₂
  | .clientCert _ _, .clientCert _ _ => True
  | .clientKey _ _, .clientKey _ _ => True
  | _, _ => False

namespace Target

variable {files a b : File.System} {target : Target} {error e₁ e₂ : TargetError}

/-- What fails is the flag, or else one of the two files of the client. -/
theorem dialOptions_error (h : target.dialOptions files = .error error) :
    (∃ auth cause, target.auth = some auth ∧ auth.configure files = .error cause ∧
        error = .auth auth cause) ∨
      (∃ path cause, target.clientCert = some path ∧ files.read path = .error cause ∧
        error = .clientCert path cause) ∨
      (∃ path cause, target.clientKey = some path ∧ files.read path = .error cause ∧
        error = .clientKey path cause) := by
  rw [dialOptions] at h
  split at h
  · rename_i cause hbase
    obtain rfl := Except.error.inj h
    rw [baseOptions] at hbase
    split at hbase
    · rename_i auth hauth
      split at hbase
      · exact absurd hbase (by simp)
      · rename_i cause' hconfigure
        exact .inl ⟨auth, cause', hauth, hconfigure, (Except.error.inj hbase).symm⟩
    · exact absurd hbase (by simp)
  · split at h
    · rename_i cause hidentity
      obtain rfl := Except.error.inj h
      rw [identity] at hidentity
      split at hidentity
      · rename_i certPath keyPath hcert hkey
        split at hidentity
        · rename_i cause' hread
          exact .inr (.inl ⟨certPath, cause', hcert, hread, (Except.error.inj hidentity).symm⟩)
        · split at hidentity
          · rename_i cause' hread
            exact .inr (.inr ⟨keyPath, cause', hkey, hread, (Except.error.inj hidentity).symm⟩)
          · exact absurd hidentity (by simp)
      · exact absurd hidentity (by simp)
    · exact absurd h (by simp)

theorem eq_of_sameKind_of_dialOptions (hfiles : a.FailAlike b)
    (h₁ : target.dialOptions a = .error e₁) (h₂ : target.dialOptions b = .error e₂)
    (hkind : e₁.SameKind e₂) : e₁ = e₂ := by
  rcases dialOptions_error h₁ with ⟨auth₁, cause₁, hauth₁, hfail₁, rfl⟩ |
    ⟨path₁, cause₁, hpath₁, hread₁, rfl⟩ | ⟨path₁, cause₁, hpath₁, hread₁, rfl⟩
  · rcases dialOptions_error h₂ with ⟨auth₂, cause₂, hauth₂, hfail₂, rfl⟩ |
      ⟨path₂, cause₂, -, -, rfl⟩ | ⟨path₂, cause₂, -, -, rfl⟩
    · obtain rfl := Option.some.inj (hauth₁.symm.trans hauth₂)
      rw [Auth.eq_of_sameKind_of_configure hfiles hfail₁ hfail₂ hkind]
    · exact hkind.elim
    · exact hkind.elim
  · rcases dialOptions_error h₂ with ⟨auth₂, cause₂, -, -, rfl⟩ |
      ⟨path₂, cause₂, hpath₂, hread₂, rfl⟩ | ⟨path₂, cause₂, -, -, rfl⟩
    · exact hkind.elim
    · obtain rfl := Option.some.inj (hpath₁.symm.trans hpath₂)
      rw [hfiles.cause_eq hread₁ hread₂]
    · exact hkind.elim
  · rcases dialOptions_error h₂ with ⟨auth₂, cause₂, -, -, rfl⟩ |
      ⟨path₂, cause₂, -, -, rfl⟩ | ⟨path₂, cause₂, hpath₂, hread₂, rfl⟩
    · exact hkind.elim
    · exact hkind.elim
    · obtain rfl := Option.some.inj (hpath₁.symm.trans hpath₂)
      rw [hfiles.cause_eq hread₁ hread₂]

end Target
end Command

/-! ## 4. Nothing of the text -/

/-- **No description and no error tells the text of a token.**  Runs of steps that differ in the
texts of accepted tokens describe their options, the token in them and what attaches it in the same
words.  And where a token cannot be loaded, a flag not be used or a target's options not be had
with two contents of a file, and the same check failed, the message and the messages of its causes
are the same. -/
theorem diagnostics_keep_the_token :
    (∀ steps others, List.Forall₂ Dial.Options.Step.SameButToken steps others →
      let options := Dial.Options.build steps
      let twin := Dial.Options.build others
      options.description = twin.description ∧
        options.token.map AccessToken.description = twin.token.map AccessToken.description ∧
        options.interceptor.description = twin.interceptor.description) ∧
    (∀ (files : File.System) (names : Path → Bool) (first second : List UInt8),
      (files.rewritten names first).FailAlike (files.rewritten names second)) ∧
    (∀ a b : File.System, a.FailAlike b →
      (∀ (auth : Auth) (e₁ e₂ : Auth.Error), e₁.SameKind e₂ →
        (auth.credentials a = .error e₁ ∧ auth.credentials b = .error e₂) ∨
          (auth.configure a = .error e₁ ∧ auth.configure b = .error e₂) →
        ∀ others, e₁.message others = e₂.message others ∧ e₁.chain others = e₂.chain others) ∧
      (∀ (target : Command.Target) (e₁ e₂ : Command.TargetError), e₁.SameKind e₂ →
        target.dialOptions a = .error e₁ → target.dialOptions b = .error e₂ →
        e₁.message = e₂.message ∧ e₁.chain = e₂.chain)) := by
  refine ⟨fun steps others hsteps => ?_, File.System.failAlike_rewritten,
    fun a b hfiles => ⟨fun auth e₁ e₂ hkind h => ?_,
      fun target e₁ e₂ hkind h₁ h₂ => ?_⟩⟩
  · have hsame := Dial.Options.SameButToken.build hsteps
    exact ⟨hsame.description_eq, hsame.map_description_eq, hsame.interceptor_description_eq⟩
  · have heq : e₁ = e₂ := by
      rcases h with ⟨h₁, h₂⟩ | ⟨h₁, h₂⟩
      · exact Auth.eq_of_sameKind_of_credentials hfiles h₁ h₂ hkind
      · exact Auth.eq_of_sameKind_of_configure hfiles h₁ h₂ hkind
    subst heq
    exact fun _ => ⟨rfl, rfl⟩
  · obtain rfl := Command.Target.eq_of_sameKind_of_dialOptions hfiles h₁ h₂ hkind
    exact ⟨rfl, rfl⟩

end RegionalDial
