/-
# What connecting does, in order

Connecting is resolving and then, where that names a host, dialing it: one dial and no second
try.  So all it does of its own is at most two attempts, and their order and their targets can be
read off the resolution alone.

The effects of a run split at the moment at which the resolution is there: before it are the
effects of the resolver, after it those of the dial, and without a resolution nothing comes after
(`effects_resolveThenDial`).  This holds for any two options, so it also serves where the lookup is
made with other options than the dial.
-/
import RegionalDial.Proofs.Resolving
import RegionalDial.Redirect.Connection

namespace RegionalDial

/-! ## 1. What a dial does -/

/-- A dial tells what it is about to do and opens at most one address, the one that the target
means under the options. -/
theorem Dial.Network.effects_dial (network : Dial.Network) (target : String)
    (options : Dial.Options) :
    (network.dial target options).effects =
      .dial target options :: (match options.endpoint target with
        | .error _ => []
        | .ok uri => [.opened uri]) := by
  rw [dial, Run.effects]
  cases options.endpoint target with
  | error error => rfl
  | ok uri => simp only [Run.effects, Run.effects_map, Run.effects_withinOptional_ofPending]

/-- What an interceptor that holds this token does to the headers of a call: the token is the one
value of its key, and no other key changes.  Without a token nothing changes. -/
def Interceptor.Attaches (interceptor : Interceptor) (token : Option AccessToken) : Prop :=
  ∀ headers, match token with
    | none => interceptor.apply headers = headers
    | some token =>
      (interceptor.apply headers).values AccessToken.headerKey = [token.headerValue] ∧
        ∀ key, Metadata.normalKey key ≠ Metadata.normalKey AccessToken.headerKey →
          (interceptor.apply headers).values key = headers.values key

/-- The interceptor of some options attaches their token. -/
theorem Dial.Options.interceptor_attaches (options : Dial.Options) :
    options.interceptor.Attaches options.token := by
  intro headers
  cases htoken : options.token with
  | none => simp only [interceptor, Interceptor.apply, htoken]
  | some token =>
    simp only [interceptor, Interceptor.apply, htoken]
    refine ⟨Metadata.values_insert_self _ _ _, fun key hkey => ?_⟩
    exact Metadata.values_insert_of_ne _ _ hkey

namespace Redirect

variable {ε α : Type}

/-! ## 2. Before and after the resolution -/

section Split

variable {network : Dial.Network} {resolver : Resolver ε} {endpoint : String}
  {lookupOptions options : Dial.Options}

/-- What is dialed after a resolver: its resolution, where it ends with one. -/
def dialedAfter (network : Dial.Network) (options : Dial.Options) :
    Option (Except Error Resolution) → List Dial.Effect
  | some (.ok resolution) => (network.dial resolution.endpoint options).effects
  | some (.error _) => []
  | none => []

theorem mem_dialedAfter_iff {resolved : Option (Except Error Resolution)} {effect : Dial.Effect} :
    effect ∈ dialedAfter network options resolved ↔
      ∃ resolution, resolved = some (.ok resolution) ∧
        effect ∈ (network.dial resolution.endpoint options).effects := by
  rcases resolved with _ | error | resolution
  · simp [dialedAfter]
  · simp [dialedAfter]
  · simp [dialedAfter]

theorem dialedAfter_eq_nil {resolved : Option (Except Error Resolution)}
    (h : ¬ ∃ resolution, resolved = some (.ok resolution)) :
    dialedAfter network options resolved = [] := by
  refine List.eq_nil_iff_forall_not_mem.mpr fun effect hmem => ?_
  obtain ⟨resolution, hresolved, -⟩ := mem_dialedAfter_iff.mp hmem
  exact h ⟨resolution, hresolved⟩

/-- **First the resolver, and then the dial of what it chose.** -/
theorem effects_resolveThenDial :
    (resolveThenDial network resolver endpoint lookupOptions options).effects =
      (resolver.resolve endpoint lookupOptions).effects.map Step.resolving ++
        (dialedAfter network options (resolver.resolve endpoint lookupOptions).value?).map
          Step.dialing := by
  rw [resolveThenDial, Run.effects_bind, Run.effects_mapEffects, Run.value?_mapEffects]
  rcases (resolver.resolve endpoint lookupOptions).value? with _ | error | resolution
  · rfl
  · rfl
  · simp [dialedAfter, dialResolved]

/-- The end of a run is the resolver's error, or the end of the dial. -/
theorem value?_resolveThenDial :
    (resolveThenDial network resolver endpoint lookupOptions options).value? =
      (resolver.resolve endpoint lookupOptions).value?.bind fun resolved =>
        match resolved with
        | .error error => some (.error error)
        | .ok resolution => (dialResolved network resolution options).value? := by
  rw [resolveThenDial, Run.value?_bind, Run.value?_mapEffects]
  congr 1
  funext resolved
  cases resolved with
  | error error => rfl
  | ok resolution => exact Run.value?_mapEffects _ _

/-- How the dial of a resolution ends. -/
theorem value?_dialResolved (network : Dial.Network) (resolution : Resolution)
    (options : Dial.Options) :
    (dialResolved network resolution options).value? =
      (network.dial resolution.endpoint options).value?.map fun dialed =>
        match dialed with
        | .ok channel => .ok ⟨channel, options.interceptor, resolution⟩
        | .error error => .error (.dial resolution.endpoint error) :=
  Run.value?_map _ _

end Split

/-! ## 3. The attempts -/

/-- What connecting does of its own accord. -/
inductive Attempt where
  | lookup (endpoint : String) (options : Dial.Options)
  | dial (target : String) (options : Dial.Options)
deriving DecidableEq

/-- The attempt that a step begins, if it begins one. -/
def Step.attempt? : Step ε → Option Attempt
  | .resolving (.lookup endpoint options) => some (.lookup endpoint options)
  | .dialing (.dial target options) => some (.dial target options)
  | _ => none

/-- The attempts of a run, in order. -/
def attempts (run : Run (Step ε) α) : List Attempt := run.effects.filterMap Step.attempt?

/-- The attempts of a resolver are its lookups. -/
theorem filterMap_attempt?_resolving (run : Run (Effect ε) α) :
    (run.effects.map Step.resolving).filterMap Step.attempt? =
      (lookups run).map fun (endpoint, options) => Attempt.lookup endpoint options := by
  rw [lookups, List.filterMap_map, List.map_filterMap]
  congr 1
  funext effect
  cases effect <;> rfl

/-- A dial is one attempt. -/
theorem filterMap_attempt?_dialing (network : Dial.Network) (target : String)
    (options : Dial.Options) :
    ((network.dial target options).effects.map Step.dialing).filterMap
      (Step.attempt? : Step ε → Option Attempt) = [.dial target options] := by
  rw [Dial.Network.effects_dial]
  cases options.endpoint target <;> rfl

/-- The attempt a resolver makes: one lookup, or none when it is turned off. -/
def Resolver.attempts (resolver : Resolver ε) (endpoint : String) (options : Dial.Options) :
    List Attempt :=
  if resolver.toggle.isEnabled then [.lookup endpoint options] else []

theorem Resolver.filterMap_attempt? (resolver : Resolver ε) (endpoint : String)
    (options : Dial.Options) :
    ((resolver.resolve endpoint options).effects.map Step.resolving).filterMap Step.attempt? =
      resolver.attempts endpoint options := by
  rw [filterMap_attempt?_resolving, lookups_resolve, Resolver.attempts]
  cases resolver.toggle.isEnabled <;> rfl

/-- **The attempts are the resolver's, and then one dial of what it chose.** -/
theorem attempts_resolveThenDial {network : Dial.Network} {resolver : Resolver ε}
    {endpoint : String} {lookupOptions options : Dial.Options} :
    attempts (resolveThenDial network resolver endpoint lookupOptions options) =
      resolver.attempts endpoint lookupOptions ++
        match (resolver.resolve endpoint lookupOptions).value? with
        | some (.ok resolution) => [.dial resolution.endpoint options]
        | _ => [] := by
  rw [attempts, effects_resolveThenDial, List.filterMap_append, Resolver.filterMap_attempt?]
  congr 1
  rcases (resolver.resolve endpoint lookupOptions).value? with _ | error | resolution
  · rfl
  · rfl
  · exact filterMap_attempt?_dialing network resolution.endpoint options

/-! ## 4. Every end a dial can have -/

/-- **Connecting does what one lookup does and what one dial does, and nothing besides.**  The
lookup is for the endpoint; a resolver that is turned off makes none.  The dial comes after it, is
made where there is a resolution and nowhere else, and opens at most one address, the one that is
meant by the resolution's endpoint, which is the endpoint itself or the home host of the clusters
that were assigned.  Both are made with the options that were given.  A resolver's error is the
error; a failed dial is an error that names the host that was dialed and keeps the cause; and a
connection tells the resolution that was dialed and attaches the token of the options. -/
theorem connect_dials_the_resolution (network : Dial.Network) (resolver : Resolver ε)
    (endpoint : String) (options : Dial.Options) :
    let resolved := (resolver.resolve endpoint options).value?
    let before := (resolver.resolve endpoint options).effects
    let run := connect network resolver endpoint options
    (resolver.toggle.isEnabled = false → before = []) ∧
    (resolver.toggle.isEnabled = true →
      ∃ done, done <+: (resolver.lookup endpoint options).effects ∧
        before = .lookup endpoint options :: done.map Effect.inLookup) ∧
    ((¬ ∃ resolution, resolved = some (.ok resolution)) →
      run.effects = before.map Step.resolving) ∧
    (∀ error, resolved = some (.error error) → run.value? = some (.error error)) ∧
    (∀ resolution, resolved = some (.ok resolution) →
      (let opened := (options.endpoint resolution.endpoint).toOption.toList.map Dial.Effect.opened
       run.effects = before.map Step.resolving ++
        (Dial.Effect.dial resolution.endpoint options :: opened).map Step.dialing) ∧
      (resolution.endpoint = endpoint ∨
        ∃ clusters, (resolver.lookup endpoint options).value? = some (.ok clusters) ∧
          clusters.IsHome resolution.endpoint) ∧
      (∀ cause, (network.dial resolution.endpoint options).value? = some (.error cause) →
        run.value? = some (.error (.dial resolution.endpoint cause))) ∧
      (∀ channel, (network.dial resolution.endpoint options).value? = some (.ok channel) →
        ∃ connection, run.value? = some (.ok connection) ∧ connection.channel = channel ∧
          connection.resolution = resolution ∧
          connection.interceptor.Attaches options.token)) := by
  intro resolved before run
  have heffects : run.effects = _ := effects_resolveThenDial
  have hvalue : run.value? = _ := value?_resolveThenDial
  have hend : ∀ {resolution}, resolved = some (.ok resolution) →
      run.value? = (dialResolved network resolution options).value? := fun h =>
    hvalue.trans (congrArg (Option.bind · _) h)
  refine ⟨fun hoff => ?_, fun hon => Resolver.effects_resolve hon endpoint options, fun hnone => ?_,
    fun error h => ?_, fun resolution h => ⟨?_, ?_, ?_, ?_⟩⟩
  · change (resolver.resolve endpoint options).effects = []
    rw [Resolver.resolve_of_disabled hoff]
    rfl
  · -- No resolution, because there is an error or because there will never be one.
    rw [heffects, dialedAfter_eq_nil hnone, List.map_nil, List.append_nil]
  · exact hvalue.trans (congrArg (Option.bind · _) h)
  · have hdialed : dialedAfter network options (resolver.resolve endpoint options).value? =
        (network.dial resolution.endpoint options).effects :=
      congrArg (dialedAfter network options) h
    rw [heffects, hdialed, Dial.Network.effects_dial]
    cases options.endpoint resolution.endpoint with
    | error error => rfl
    | ok uri => rfl
  · exact Resolver.endpoint_of_resolution h
  · intro cause hcause
    rw [hend h, value?_dialResolved, hcause]
    rfl
  · intro channel hchannel
    refine ⟨⟨channel, options.interceptor, resolution⟩, ?_, rfl, rfl, ?_⟩
    · rw [hend h, value?_dialResolved, hchannel]
      rfl
    · exact options.interceptor_attaches

end Redirect
end RegionalDial
