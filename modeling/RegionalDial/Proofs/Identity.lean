/-
# One identity for the lookup and the connection

A flag yields one value of options, and two are made of it: one for the lookup and one for the
connection after it.  They differ in one place, the limit of calls, which only the lookup has.  So
both come with the same TLS settings and the same token, and what bounds the lookup is gone once
the connection stands.

The limit itself is met three times on the way: it bounds the lookup as a whole, each attempt to
connect, and the lookup's call.  The first two make every run end (`isSome_value?_dialWithAuth`).
-/
import RegionalDial.Proofs.Credentials

namespace RegionalDial

/-! ## 1. Limits -/

/-- Under a limit of its own a dial always ends. -/
theorem Dial.Network.isSome_value?_dial (network : Dial.Network) (target : String)
    {options : Dial.Options} {limit : Duration} (hlimit : options.connectTimeout = some limit) :
    (network.dial target options).value?.isSome = true := by
  rw [dial, Run.value?]
  cases options.endpoint target with
  | error error => rfl
  | ok uri =>
    simp only [Run.value?, Run.value?_map, hlimit, Run.withinOptional, Run.value?_within,
      Option.map_some, Option.isSome_some]

/-- A call over a channel without a limit ends when it is answered, and with this answer. -/
theorem Dial.Network.value?_getOne_of_unlimited (network : Dial.Network) {channel : Dial.Channel}
    (hlimit : channel.requestTimeout = none) (interceptor : Interceptor)
    (request : AssignmentRequest) :
    (network.getOne channel interceptor request).value? =
      (network.answer channel.uri (interceptor.apply Metadata.empty) request).value? := by
  simp only [getOne, Run.value?, Run.value?_map, hlimit, Run.withinOptional, Run.value?_ofPending,
    Option.map_map, Function.comp_def, Option.getD_some, Option.map_id']

namespace Redirect

/-- A resolver with a limit always ends. -/
theorem Resolver.isSome_value?_resolve {ε : Type} {resolver : Resolver ε} {limit : Duration}
    (hlimit : resolver.timeout = some limit) (endpoint : String) (options : Dial.Options) :
    (resolver.resolve endpoint options).value?.isSome = true := by
  cases hon : resolver.toggle.isEnabled with
  | false => rw [resolve_of_disabled hon]; rfl
  | true =>
    by_cases hends : (resolver.lookup endpoint options).EndsBy
        (limit.toTick (resolver.sinceTick endpoint options))
    · obtain ⟨answer, hanswer⟩ := Option.isSome_iff_exists.mp hends.1
      have hin : resolver.InTime endpoint options := fun limit' hlimit' => by
        obtain rfl := Option.some.inj (hlimit.symm.trans hlimit')
        exact hends
      rw [value?_resolve_of_inTime hon hin hanswer]
      rfl
    · rw [value?_resolve_of_late hon hlimit hends]
      rfl

/-! ## 2. What the lookup presents -/

/-- Every question of a lookup comes with the headers of its options. -/
theorem Lookup.headers_of_mem_over {network : Dial.Network} {endpoint : String}
    {options : Dial.Options} {uri : Uri} {headers : Metadata} {request : AssignmentRequest}
    (h : .asked uri headers request ∈ (Lookup.over network endpoint options).effects) :
    headers = options.interceptor.apply Metadata.empty := by
  rcases mem_effects_over h with h | ⟨channel, -, heq⟩
  · -- A dial asks nothing.
    rw [Dial.Network.effects_dial] at h
    cases hendpoint : options.endpoint endpoint <;> simp [hendpoint] at h
  · exact (Dial.Effect.asked.inj heq).2.1

/-! ## 3. The parts of a run -/

section Parts

variable {network : Dial.Network} {files : File.System} {toggle : Toggle} {endpoint : String}
  {auth : Auth} {limit : Duration}

/-- A flag that cannot be used is all there is to say. -/
theorem dialWithAuth_of_refused {error : Auth.Error} (h : auth.configure files = .error error) :
    dialWithAuth network files toggle endpoint auth limit = .done (.error (.auth error)) := by
  rw [dialWithAuth, h]

/-- Every run ends: the resolver has a limit, and so has the dial after it. -/
theorem isSome_value?_dialWithAuth :
    (dialWithAuth network files toggle endpoint auth limit).value?.isSome = true := by
  cases hauth : auth.configure files with
  | error error =>
    rw [dialWithAuth_of_refused hauth]
    rfl
  | ok configured =>
    rw [(dialWithAuth_of_configure hauth).2, Option.isSome_map, value?_resolveThenDial]
    have hends : (Resolver.resolve (.over network toggle (some limit)) endpoint
        ((configured.withConnectTimeout limit).withRequestTimeout limit)).value?.isSome = true :=
      Resolver.isSome_value?_resolve rfl _ _
    obtain ⟨resolved, hresolved⟩ := Option.isSome_iff_exists.mp hends
    rw [hresolved, Option.bind_some]
    cases resolved with
    | error error => rfl
    | ok resolution =>
      simp only [value?_dialResolved, Option.isSome_map]
      exact network.isSome_value?_dial resolution.endpoint rfl

end Parts

/-! ## 4. Both ends of a run -/

/-- **The lookup and the connection present one identity, and only the lookup's call is bounded.**
A flag that cannot be used ends the run before anything is done.  With one that can, the lookup is
made under the flag's TLS settings and token, with the limit in all three places; a lookup that
takes longer is given up.  The host is dialed under the same settings and the same token, with the
limit for this attempt and with none for calls.  The resolver's error is passed on and nothing is
dialed after it, a failed dial names the host, and the connection attaches the token to calls that
take as long as they take. -/
theorem lookup_and_connection_present_one_identity (network : Dial.Network) (files : File.System)
    (setting : Option (List UInt8)) (endpoint : String) (auth : Auth) (limit : Duration) :
    let run := dialWithAuth network files (Toggle.ofBytes setting) endpoint auth limit
    run.value?.isSome = true ∧
    (∀ error, auth.configure files = .error error →
      run.effects = [] ∧ run.value? = some (.error (.auth error))) ∧
    (∀ configured, auth.configure files = .ok configured →
      ∃ token, auth.credentials files = .ok token ∧ configured.token = some token ∧
        let lookupOptions : Dial.Options := ⟨configured.tls, some token, some limit, some limit⟩
        let options : Dial.Options := ⟨configured.tls, some token, some limit, none⟩
        let lookup := Lookup.over network endpoint lookupOptions
        let resolver := Resolver.over network (Toggle.ofBytes setting) (some limit)
        let resolved := resolver.resolve endpoint lookupOptions
        (run.effects = resolved.effects.map Step.resolving ++
          (dialedAfter network options resolved.value?).map Step.dialing) ∧
        (Toggle.ofBytes setting ≠ .disabled →
          ¬ lookup.EndsBy (limit.toTick (network.sinceTick (.dial endpoint lookupOptions))) →
          resolved.value? = some (.error (.timeout endpoint limit))) ∧
        (∀ uri headers request, .resolving (.inLookup (.asked uri headers request)) ∈ run.effects →
          headers.values AccessToken.headerKey = [token.headerValue]) ∧
        (∀ error, resolved.value? = some (.error error) →
          attempts run = resolver.attempts endpoint lookupOptions ∧
          run.value? = some (.error (.redirect error))) ∧
        (∀ resolution, resolved.value? = some (.ok resolution) →
          attempts run =
            resolver.attempts endpoint lookupOptions ++ [.dial resolution.endpoint options] ∧
          (∀ cause, (network.dial resolution.endpoint options).value? = some (.error cause) →
            run.value? = some (.error (.redirect (.dial resolution.endpoint cause)))) ∧
          (∀ channel, (network.dial resolution.endpoint options).value? = some (.ok channel) →
            ∃ connection, run.value? = some (.ok connection) ∧ connection.channel = channel ∧
              connection.resolution = resolution ∧
              connection.interceptor.Attaches (some token) ∧
              ∀ request, (connection.getOne network request).value? =
                (network.answer channel.uri (connection.interceptor.apply Metadata.empty)
                  request).value?))) := by
  intro run
  refine ⟨isSome_value?_dialWithAuth, fun error hauth => ?_, fun configured hauth => ?_⟩
  · have hrun : run = .done (.error (.auth error)) := dialWithAuth_of_refused hauth
    rw [hrun]
    exact ⟨rfl, rfl⟩
  · obtain ⟨tls, token, htoken, rfl⟩ := Auth.options_of_configure hauth
    refine ⟨token, htoken, rfl, ?_⟩
    intro lookupOptions options lookup resolver resolved
    -- What the flag yields has no limits, so the two options are exactly these.
    have hrun : run = (resolveThenDial network resolver endpoint lookupOptions options).map
        (Except.mapError .redirect) := by
      have h : run = _ := dialWithAuth_eq hauth
      simpa only [Dial.Options.withConnectTimeout, Dial.Options.withRequestTimeout] using h
    have heffects : run.effects =
        (resolveThenDial network resolver endpoint lookupOptions options).effects := by
      rw [hrun, Run.effects_map]
    have hvalue : run.value? =
        (resolveThenDial network resolver endpoint lookupOptions options).value?.map
          (Except.mapError .redirect) := by
      rw [hrun, Run.value?_map]
    have hattempts : attempts run =
        attempts (resolveThenDial network resolver endpoint lookupOptions options) := by
      rw [attempts, heffects, attempts]
    rw [attempts_resolveThenDial] at hattempts
    rw [value?_resolveThenDial] at hvalue
    refine ⟨heffects.trans effects_resolveThenDial, fun hon hlate => ?_,
      fun uri headers request h => ?_, fun error h => ?_, fun resolution h => ?_⟩
    · have hon' : resolver.toggle.isEnabled = true := by
        rw [← Bool.not_eq_false, Toggle.isEnabled_eq_false_iff]
        exact hon
      exact Resolver.value?_resolve_of_late hon' rfl hlate
    · rw [heffects, resolving_mem_iff] at h
      obtain rfl := Lookup.headers_of_mem_over (Resolver.mem_lookup_of_mem_resolve h)
      exact (lookupOptions.interceptor_attaches Metadata.empty).1
    · have hresolved : (resolver.resolve endpoint lookupOptions).value? = some (.error error) := h
      rw [hresolved] at hattempts hvalue
      exact ⟨hattempts.trans (List.append_nil _), hvalue⟩
    · have hresolved : (resolver.resolve endpoint lookupOptions).value? = some (.ok resolution) := h
      rw [hresolved] at hattempts hvalue
      simp only [Option.bind_some, value?_dialResolved] at hvalue
      refine ⟨hattempts, fun cause hcause => ?_, fun channel hchannel => ?_⟩
      · rw [hvalue, hcause]
        rfl
      · refine ⟨⟨channel, options.interceptor, resolution⟩, ?_, rfl, rfl,
          options.interceptor_attaches, fun request => ?_⟩
        · rw [hvalue, hchannel]
          rfl
        · have hlimit := (Dial.Network.channel_of_value?_dial hchannel).2
          exact network.value?_getOne_of_unlimited hlimit options.interceptor request

end Redirect
end RegionalDial
