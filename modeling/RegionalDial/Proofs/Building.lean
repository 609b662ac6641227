/-
# Options that are built step by step

Options start without anything and each step sets one part of them.  A limit and the token are
replaced by the next step that sets them.  The TLS settings are set in two ways: settings as a
whole replace all that was there, and a client certificate is added to what is there.  So within
the TLS settings the order counts, and between the parts it does not.

* **One step.**  Of each part, what it is after a step depends on the step and on this part alone
  (`tls_apply`, `token_apply`, `connectTimeout_apply`, `requestTimeout_apply`).
* **A run of steps.**  A part that is replaced is what the last step made it (`eq_last_of_apply`).
  The TLS settings are a fold of their own steps (`tls_build`), in which all that stands before the
  last settings as a whole is forgotten (`foldl_secure_of_no_settings`).
-/
import Mathlib.Data.List.Induction
import RegionalDial.Dial.Options

namespace RegionalDial
namespace Dial
namespace Options

/-! ## 1. Steps -/

/-- A step by which options are built. -/
inductive Step where
  /-- Settings as a whole; they replace those that were there. -/
  | tls (settings : Tls)
  | nativeTls
  /-- A client certificate, added to the settings that are there. -/
  | identity (client : Identity)
  /-- A token with this text, if a token can have it. -/
  | token (text : String)
  | connectTimeout (limit : Duration)
  | requestTimeout (limit : Duration)
deriving DecidableEq

/-- One step.  A text that is refused as a token leaves the options as they are. -/
def apply (options : Options) : Step → Options
  | .tls settings => options.withTls settings
  | .nativeTls => options.withNativeTls
  | .identity client => options.withIdentity client
  | .token text =>
    match AccessToken.ofString text with
    | .ok token => options.withToken token
    | .error _ => options
  | .connectTimeout limit => options.withConnectTimeout limit
  | .requestTimeout limit => options.withRequestTimeout limit

/-- The options after some steps. -/
def build (steps : List Step) : Options := steps.foldl apply plaintext

namespace Step

/-- The settings as a whole that a step makes. -/
def settings? : Step → Option Tls
  | tls settings => some settings
  | nativeTls => some ⟨.native, none⟩
  | _ => none

def identity? : Step → Option Identity
  | .identity client => some client
  | _ => none

/-- The token that a step sets, where its text is accepted. -/
def token? : Step → Option AccessToken
  | token text => (AccessToken.ofString text).toOption
  | _ => none

def connectTimeout? : Step → Option Duration
  | connectTimeout limit => some limit
  | _ => none

def requestTimeout? : Step → Option Duration
  | requestTimeout limit => some limit
  | _ => none

/-- What a step makes of the TLS settings. -/
def secure (before : Option Tls) (step : Step) : Option Tls :=
  match step.settings?, step.identity? with
  | some settings, _ => some settings
  | none, some client => some { before.getD Tls.plain with identity := some client }
  | none, none => before

/-- The parts of options, each with the steps that set it. -/
inductive Part where
  | security
  | token
  | connectTimeout
  | requestTimeout
deriving DecidableEq

/-- The part that a step sets.  A refused token sets none. -/
def part? : Step → Option Part
  | tls _ | nativeTls | identity _ => some .security
  | step@(token _) => step.token?.map fun _ => .token
  | connectTimeout _ => some .connectTimeout
  | requestTimeout _ => some .requestTimeout

end Step

/-! ## 2. One step -/

variable {α : Type} (options : Options) (step : Step)

/-- A step with a token sets it, or it does nothing. -/
theorem apply_token (text : String) :
    options.apply (.token text) =
      { options with token := (Step.token? (.token text)).or options.token } := by
  rw [apply, Step.token?]
  cases AccessToken.ofString text <;> rfl

theorem tls_apply : (options.apply step).tls = step.secure options.tls := by
  cases step with
  | token text => rw [apply_token]; rfl
  | _ => rfl

theorem token_apply : (options.apply step).token = step.token?.or options.token := by
  cases step with
  | token text => rw [apply_token]
  | _ => rfl

theorem connectTimeout_apply :
    (options.apply step).connectTimeout = step.connectTimeout?.or options.connectTimeout := by
  cases step with
  | token text => rw [apply_token]; rfl
  | _ => rfl

theorem requestTimeout_apply :
    (options.apply step).requestTimeout = step.requestTimeout?.or options.requestTimeout := by
  cases step with
  | token text => rw [apply_token]; rfl
  | _ => rfl

/-! ## 3. Parts that are replaced -/

/-- What the last step that reads as something reads as. -/
def last (read : Step → Option α) (steps : List Step) : Option α := (steps.filterMap read).getLast?

theorem last_concat (read : Step → Option α) (steps : List Step) :
    last read (steps ++ [step]) = (read step).or (last read steps) := by
  rw [last, last, List.filterMap_append]
  cases hread : read step with
  | none => rw [List.filterMap_cons_none hread, List.filterMap_nil, List.append_nil, Option.none_or]
  | some value =>
    rw [List.filterMap_cons_some hread, List.filterMap_nil, List.getLast?_concat, Option.some_or]

variable {step}

/-- **A part that each step replaces or keeps is what the last of them made it.** -/
theorem eq_last_of_apply {part : Options → Option α} {read : Step → Option α}
    (hstart : part plaintext = none)
    (hstep : ∀ options step, part (apply options step) = (read step).or (part options))
    (steps : List Step) : part (build steps) = last read steps := by
  -- The last step stands at the end, so the induction takes steps away from there.
  induction steps using List.reverseRecOn with
  | nil => exact hstart
  | append_singleton steps step ih =>
    rw [build, List.foldl_append, List.foldl_cons, List.foldl_nil, hstep, last_concat, ← ih, build]

theorem token_build (steps : List Step) : (build steps).token = last Step.token? steps :=
  eq_last_of_apply rfl token_apply steps

theorem connectTimeout_build (steps : List Step) :
    (build steps).connectTimeout = last Step.connectTimeout? steps :=
  eq_last_of_apply rfl connectTimeout_apply steps

theorem requestTimeout_build (steps : List Step) :
    (build steps).requestTimeout = last Step.requestTimeout? steps :=
  eq_last_of_apply rfl requestTimeout_apply steps

/-! ## 4. The TLS settings -/

theorem tls_build (steps : List Step) : (build steps).tls = steps.foldl Step.secure none :=
  (List.foldl_hom Options.tls fun options step => (tls_apply options step).symm).symm

/-- A step without settings of its own adds its client certificate, if it has one. -/
theorem Step.secure_of_no_settings {step : Step} (h : step.settings? = none) (before : Option Tls) :
    step.secure before =
      match step.identity? with
      | some client => some { before.getD Tls.plain with identity := some client }
      | none => before := by
  rw [secure, h]
  cases step.identity? <;> rfl

/-- **After settings as a whole, the last client certificate is added to them.** -/
theorem foldl_secure_of_no_settings {steps : List Step} (h : ∀ step ∈ steps, step.settings? = none)
    (before : Option Tls) :
    steps.foldl Step.secure before =
      match last Step.identity? steps with
      | some client => some { before.getD Tls.plain with identity := some client }
      | none => before := by
  induction steps using List.reverseRecOn with
  | nil => rfl
  | append_singleton steps step ih =>
    have hstep : step.settings? = none := h step (by simp)
    have hsteps : ∀ step ∈ steps, step.settings? = none := fun step hmem => h step (by simp [hmem])
    rw [List.foldl_append, List.foldl_cons, List.foldl_nil, ih hsteps,
      Step.secure_of_no_settings hstep, last_concat]
    -- A certificate of this step takes the place of those before it.
    cases step.identity? <;> cases last Step.identity? steps <;> rfl

/-- Does a step bring TLS? -/
def Step.secures (step : Step) : Bool := step.settings?.isSome || step.identity?.isSome

theorem Step.isSome_secure (before : Option Tls) (step : Step) :
    (step.secure before).isSome = (before.isSome || step.secures) := by
  rw [secure, secures]
  cases step.settings? with
  | some settings => simp
  | none =>
    cases step.identity? with
    | some client => simp
    | none => simp

theorem isSome_foldl_secure (steps : List Step) (before : Option Tls) :
    (steps.foldl Step.secure before).isSome = (before.isSome || steps.any Step.secures) := by
  induction steps generalizing before with
  | nil => simp
  | cons step steps ih =>
    rw [List.foldl_cons, ih, Step.isSome_secure, List.any_cons, Bool.or_assoc]

theorem usesTls_build (steps : List Step) : (build steps).usesTls = steps.any Step.secures := by
  rw [usesTls, tls_build, isSome_foldl_secure, Option.isSome_none, Bool.false_or]

/-! ## 5. Parts do not meet -/

/-- The steps of one part, in their order. -/
def stepsOf (part : Step.Part) (steps : List Step) : List Step :=
  steps.filter fun step => step.part? = some part

/-- What is read off the steps of one part needs no other step. -/
theorem last_stepsOf {read : Step → Option α} {part : Step.Part}
    (h : ∀ step value, read step = some value → step.part? = some part) (steps : List Step) :
    last read (stepsOf part steps) = last read steps := by
  have hread : (fun step => if step.part? = some part then read step else none) = read := by
    funext step
    split
    · rfl
    · rename_i hother
      cases hstep : read step with
      | none => rfl
      | some value => exact absurd (h step value hstep) hother
  rw [last, last, stepsOf, List.filterMap_filter]
  simp only [decide_eq_true_eq, hread]

theorem Step.part?_of_token? (step : Step) (token : AccessToken) (h : step.token? = some token) :
    step.part? = some .token := by
  cases step with
  | token text => rw [part?, h, Option.map_some]
  | _ => exact absurd h (by simp [token?])

theorem Step.part?_of_connectTimeout? (step : Step) (limit : Duration)
    (h : step.connectTimeout? = some limit) : step.part? = some .connectTimeout := by
  cases step with
  | connectTimeout _ => rfl
  | _ => exact absurd h (by simp [connectTimeout?])

theorem Step.part?_of_requestTimeout? (step : Step) (limit : Duration)
    (h : step.requestTimeout? = some limit) : step.part? = some .requestTimeout := by
  cases step with
  | requestTimeout _ => rfl
  | _ => exact absurd h (by simp [requestTimeout?])

/-- To the TLS settings, the steps of other parts do nothing. -/
theorem foldl_secure_stepsOf (steps : List Step) (before : Option Tls) :
    (stepsOf .security steps).foldl Step.secure before = steps.foldl Step.secure before := by
  rw [stepsOf, List.foldl_filter]
  congr 1
  funext before step
  cases step with
  | token text => split <;> rfl
  | _ => rfl

attribute [ext] Options

/-- **Steps that agree on each part build the same options.** -/
theorem build_eq_of_stepsOf_eq {steps others : List Step}
    (h : ∀ part, stepsOf part others = stepsOf part steps) : build others = build steps := by
  have hlast : ∀ {α : Type} {read : Step → Option α} {part : Step.Part},
      (∀ step value, read step = some value → step.part? = some part) →
        last read others = last read steps := fun hpart => by
    rw [← last_stepsOf hpart, h, last_stepsOf hpart]
  apply Options.ext
  · rw [tls_build, tls_build, ← foldl_secure_stepsOf, h, foldl_secure_stepsOf]
  · rw [token_build, token_build, hlast Step.part?_of_token?]
  · rw [connectTimeout_build, connectTimeout_build, hlast Step.part?_of_connectTimeout?]
  · rw [requestTimeout_build, requestTimeout_build, hlast Step.part?_of_requestTimeout?]

/-! ## 6. Any run of steps -/

/-- **What a run of steps builds.**  TLS is on when a step brings it.  Its settings are the last
ones that were made as a whole, and none where there are none; to them the last client certificate
after them is added, which takes the place of one that they held.  The token and the limits are
those that were set last.  So two runs build the same options, which describe themselves the same,
attach the same token and mean the same address for every target, when they have the same steps of
each part in the same order. -/
theorem build_keeps_what_was_set_last (steps : List Step) :
    let options := build steps
    (options.usesTls = true ↔
      ∃ step ∈ steps, step.settings?.isSome = true ∨ step.identity?.isSome = true) ∧
    (∀ before step after settings, steps = before ++ step :: after →
      step.settings? = some settings → (∀ later ∈ after, later.settings? = none) →
      options.tls =
        some ⟨settings.roots, (last Step.identity? after).or settings.identity⟩) ∧
    ((∀ step ∈ steps, step.settings? = none) →
      options.tls = (last Step.identity? steps).map fun client => ⟨.none, some client⟩) ∧
    options.token = last Step.token? steps ∧
    options.connectTimeout = last Step.connectTimeout? steps ∧
    options.requestTimeout = last Step.requestTimeout? steps ∧
    ∀ others, (∀ part, stepsOf part others = stepsOf part steps) →
      build others = options ∧ (build others).description = options.description ∧
        (build others).interceptor = options.interceptor ∧
        ∀ target, (build others).endpoint target = options.endpoint target := by
  intro options
  refine ⟨?_, fun before step after settings heq hsettings hafter => ?_, fun hnone => ?_,
    token_build steps, connectTimeout_build steps, requestTimeout_build steps,
    fun others h => ?_⟩
  · rw [usesTls_build, List.any_eq_true]
    simp only [Step.secures, Bool.or_eq_true]
  · have hstep : ∀ known, step.secure known = some settings := fun known => by
      rw [Step.secure, hsettings]
    rw [tls_build, heq, List.foldl_append, List.foldl_cons, hstep,
      foldl_secure_of_no_settings hafter]
    cases last Step.identity? after <;> rfl
  · rw [tls_build, foldl_secure_of_no_settings hnone]
    cases last Step.identity? steps <;> rfl
  · have hbuild : build others = options := build_eq_of_stepsOf_eq h
    rw [hbuild]
    exact ⟨rfl, rfl, rfl, fun _ => rfl⟩

/-- A client certificate from before the settings is gone with what they replace. -/
example :
    (build [.identity ⟨[1], [2]⟩, .nativeTls, .token "t"]).tls = some ⟨.native, none⟩ ∧
      (build [.token "t", .nativeTls, .identity ⟨[1], [2]⟩]).tls =
        some ⟨.native, some ⟨[1], [2]⟩⟩ :=
  ⟨rfl, rfl⟩

end Options
end Dial
end RegionalDial
