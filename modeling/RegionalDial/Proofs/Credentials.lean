/-
# Where a token travels

A flag yields options that hold a token and TLS settings, and the same settings are in force for
the lookup and for the host that is dialed after it.  Every address that is reached is the meaning
of a target under them: of the endpoint during the lookup, and of the resolution's endpoint after
it.  Addresses are opened and asked nowhere else.

TLS settings do not make an address secure, the scheme does.  A target without a scheme gets the
secure one, so the lookup for such an endpoint only ever reaches secure addresses.  The host that a
lookup assigns is taken as it is written, and when it names a scheme of its own, that one is kept.
-/
import RegionalDial.Proofs.Connecting
import RegionalDial.Proofs.Targets

namespace RegionalDial

/-! ## 1. What a flag yields -/

/-- The settings of a flag are TLS settings and nothing besides. -/
theorem Auth.options_of_secured {auth : Auth} {files : File.System} {base : Dial.Options}
    (h : auth.secured files = .ok base) : ∃ tls, base = Dial.Options.plaintext.withTls tls := by
  rw [secured] at h
  split at h
  · exact ⟨_, (Except.ok.inj h).symm⟩
  · split at h
    · exact ⟨_, (Except.ok.inj h).symm⟩
    · exact absurd h (by simp)

/-- **What a flag yields are TLS settings and the token of its file, without any limit.** -/
theorem Auth.options_of_configure {auth : Auth} {files : File.System} {options : Dial.Options}
    (h : auth.configure files = .ok options) :
    ∃ tls token, auth.credentials files = .ok token ∧
      options = ⟨some tls, some token, none, none⟩ := by
  rw [configure] at h
  split at h
  · exact absurd h (by simp)
  · rename_i token htoken
    split at h
    · exact absurd h (by simp)
    · rename_i base hbase
      obtain ⟨tls, rfl⟩ := options_of_secured hbase
      exact ⟨tls, token, htoken, (Except.ok.inj h).symm⟩

/-- Without TLS settings and a token there are no options. -/
theorem Auth.usesTls_and_token_of_configure {auth : Auth} {files : File.System}
    {options : Dial.Options} (h : auth.configure files = .ok options) :
    options.usesTls = true ∧ ∃ token, options.token = some token := by
  obtain ⟨tls, token, -, rfl⟩ := options_of_configure h
  exact ⟨rfl, token, rfl⟩

/-! ## 2. The addresses that are reached -/

namespace Dial

/-- The address that an effect reaches, if it reaches one. -/
def Effect.reached? : Effect → Option Uri
  | .dial _ _ => none
  | .opened uri => some uri
  | .asked uri _ _ => some uri

namespace Network

variable {network : Network} {target : String} {options : Options} {uri : Uri}

/-- A dial reaches the address that its target means. -/
theorem endpoint_of_mem_dial {effect : Effect} (h : effect ∈ (network.dial target options).effects)
    (hreached : effect.reached? = some uri) : options.endpoint target = .ok uri := by
  rw [effects_dial] at h
  rcases List.mem_cons.mp h with rfl | h
  · exact absurd hreached (by simp [Effect.reached?])
  · cases hendpoint : options.endpoint target with
    | error error => simp [hendpoint] at h
    | ok meant =>
      rw [hendpoint, List.mem_singleton] at h
      subst h
      rw [Option.some.inj hreached]

/-- So does the channel that it brings, and calls over it have the limit of the options. -/
theorem channel_of_value?_dial {channel : Channel}
    (h : (network.dial target options).value? = some (.ok channel)) :
    options.endpoint target = .ok channel.uri ∧
      channel.requestTimeout = options.requestTimeout := by
  rw [dial, Run.value?] at h
  cases hendpoint : options.endpoint target with
  | error error => simp [hendpoint, Run.value?] at h
  | ok meant =>
    simp only [hendpoint, Run.value?, Run.value?_map, Option.map_eq_some_iff] at h
    obtain ⟨accepted, -, hchannel⟩ := h
    split at hchannel
    · obtain rfl := Except.ok.inj hchannel
      exact ⟨rfl, rfl⟩
    · exact absurd hchannel (by simp)

/-- A call does one thing: it asks at the address of its channel. -/
theorem effects_getOne (network : Network) (channel : Channel) (interceptor : Interceptor)
    (request : AssignmentRequest) :
    (network.getOne channel interceptor request).effects =
      [.asked channel.uri (interceptor.apply Metadata.empty) request] := by
  simp only [getOne, Run.effects, Run.effects_map, Run.effects_withinOptional_ofPending]

end Network
end Dial

namespace Redirect

variable {network : Dial.Network} {endpoint : String} {options lookupOptions : Dial.Options}
  {uri : Uri}

/-- A lookup dials, and over the channel it asks one question, without a key. -/
theorem Lookup.effects_over :
    (Lookup.over network endpoint options).effects =
      (network.dial endpoint options).effects ++
        match (network.dial endpoint options).value? with
        | some (.ok channel) =>
          [.asked channel.uri (options.interceptor.apply Metadata.empty) ⟨none⟩]
        | _ => [] := by
  rw [Lookup.over, Run.effects_bind]
  rcases (network.dial endpoint options).value? with _ | error | channel
  · rfl
  · rfl
  · simp only [Option.map_some, Option.getD_some, Run.effects_map, Dial.Network.effects_getOne]

/-- What a lookup does is part of its dial, or it is the question over the dial's channel. -/
theorem Lookup.mem_effects_over {effect : Dial.Effect}
    (h : effect ∈ (Lookup.over network endpoint options).effects) :
    effect ∈ (network.dial endpoint options).effects ∨
      ∃ channel, (network.dial endpoint options).value? = some (.ok channel) ∧
        effect = .asked channel.uri (options.interceptor.apply Metadata.empty) ⟨none⟩ := by
  rw [effects_over] at h
  rcases List.mem_append.mp h with h | h
  · exact .inl h
  · split at h
    · rename_i channel hdialed
      exact .inr ⟨channel, hdialed, List.mem_singleton.mp h⟩
    · exact absurd h (by simp)

/-- A lookup reaches the address that its endpoint means: it dials there, and asks there. -/
theorem Lookup.endpoint_of_mem_over {effect : Dial.Effect}
    (h : effect ∈ (Lookup.over network endpoint options).effects)
    (hreached : effect.reached? = some uri) : options.endpoint endpoint = .ok uri := by
  rcases mem_effects_over h with h | ⟨channel, hdialed, rfl⟩
  · exact Dial.Network.endpoint_of_mem_dial h hreached
  · rw [(Dial.Network.channel_of_value?_dial hdialed).1, Option.some.inj hreached]

/-! ## 3. The two parts of a run -/

variable {ε : Type} {resolver : Resolver ε}

theorem Resolver.mem_lookup_of_mem_resolve {effect : ε}
    (h : .inLookup effect ∈ (resolver.resolve endpoint options).effects) :
    effect ∈ (resolver.lookup endpoint options).effects := by
  cases hon : resolver.toggle.isEnabled with
  | false => simp [resolve_of_disabled hon, Run.effects] at h
  | true =>
    obtain ⟨done, hdone, heq⟩ := effects_resolve hon endpoint options
    rw [heq] at h
    simp only [List.mem_cons, reduceCtorEq, List.mem_map, Effect.inLookup.injEq, exists_eq_right,
      false_or] at h
    exact hdone.mem h

/-- The first part of a run is that of the resolver, whatever comes of it. -/
theorem resolving_mem_iff {effect : Effect ε} :
    .resolving effect ∈ (resolveThenDial network resolver endpoint lookupOptions options).effects ↔
      effect ∈ (resolver.resolve endpoint lookupOptions).effects := by
  rw [effects_resolveThenDial, List.mem_append]
  simp

/-- The second part is the dial of a resolution. -/
theorem dialing_mem_iff {effect : Dial.Effect} :
    .dialing effect ∈ (resolveThenDial network resolver endpoint lookupOptions options).effects ↔
      ∃ resolution, (resolver.resolve endpoint lookupOptions).value? = some (.ok resolution) ∧
        effect ∈ (network.dial resolution.endpoint options).effects := by
  rw [effects_resolveThenDial, List.mem_append, ← mem_dialedAfter_iff]
  simp

/-- A connection has the channel that its endpoint means, and the interceptor of the options. -/
theorem endpoint_of_connection {connection : Connection}
    (h : (resolveThenDial network resolver endpoint lookupOptions options).value? =
      some (.ok connection)) :
    options.endpoint connection.endpoint = .ok connection.channel.uri ∧
      connection.interceptor = options.interceptor := by
  rw [value?_resolveThenDial] at h
  obtain ⟨resolved, -, hend⟩ := Option.bind_eq_some_iff.mp h
  cases resolved with
  | error error => exact absurd hend (by simp)
  | ok resolution =>
    simp only [value?_dialResolved] at hend
    obtain ⟨dialed, hdialed, hdone⟩ := Option.map_eq_some_iff.mp hend
    cases dialed with
    | error error => exact absurd hdone (by simp)
    | ok channel =>
      obtain rfl := Except.ok.inj hdone
      exact ⟨(Dial.Network.channel_of_value?_dial hdialed).1, rfl⟩

/-- With a flag that can be used, connecting is resolving and dialing under what it yields. -/
theorem dialWithAuth_eq {files : File.System} {toggle : Toggle} {auth : Auth} {limit : Duration}
    {configured : Dial.Options} (h : auth.configure files = .ok configured) :
    let options := configured.withConnectTimeout limit
    dialWithAuth network files toggle endpoint auth limit =
      (resolveThenDial network (.over network toggle (some limit)) endpoint
        (options.withRequestTimeout limit) options).map (Except.mapError .redirect) := by
  simp only [dialWithAuth, h]
  congr 1
  funext connected
  cases connected <;> rfl

theorem dialWithAuth_of_configure {files : File.System} {toggle : Toggle} {auth : Auth}
    {limit : Duration} {configured : Dial.Options} (h : auth.configure files = .ok configured) :
    let run := dialWithAuth network files toggle endpoint auth limit
    let options := configured.withConnectTimeout limit
    let inner := resolveThenDial network (.over network toggle (some limit)) endpoint
      (options.withRequestTimeout limit) options
    run.effects = inner.effects ∧ run.value? = inner.value?.map (Except.mapError .redirect) := by
  intro run options inner
  simp only [run, dialWithAuth_eq h]
  exact ⟨Run.effects_map _ _, Run.value?_map _ _⟩

/-! ## 4. The scheme of every address -/

/-- **With a flag's token, the lookup for an endpoint without a scheme is secure, and the host
that is dialed decides about the rest.**  That host is the endpoint or the one that was assigned.
Its address is secure when it names no scheme or names `https`, and not otherwise; a host that
names a scheme starts with it, and its address has this scheme, whichever it is.  The channel of the
connection, over which the token goes, is the one to this address. -/
theorem token_travels_as_assigned (network : Dial.Network) (files : File.System) (toggle : Toggle)
    (endpoint : String) (auth : Auth) (limit : Duration) {configured : Dial.Options}
    (hauth : auth.configure files = .ok configured)
    (hbare : Uri.namesScheme endpoint.toList = false) :
    let options := configured.withConnectTimeout limit
    let lookup := Lookup.over network endpoint (options.withRequestTimeout limit)
    let run := dialWithAuth network files toggle endpoint auth limit
    (configured.usesTls = true ∧ ∃ token, configured.token = some token) ∧
    (∀ effect uri, .resolving (.inLookup effect) ∈ run.effects → effect.reached? = some uri →
      uri.scheme? = some "https") ∧
    (∀ effect uri, .dialing effect ∈ run.effects → effect.reached? = some uri →
      ∃ host, .dialing (.dial host options) ∈ run.effects ∧
        (host = endpoint ∨
          ∃ clusters, lookup.value? = some (.ok clusters) ∧ clusters.IsHome host) ∧
        (uri.scheme? = some "https" ↔ Uri.IsSecureTarget host) ∧
        ("://".toList <:+: host.toList →
          ∃ name rest, Uri.IsSchemeName name ∧ host.toList = name ++ "://".toList ++ rest ∧
            uri.scheme? = some (String.ofList (Uri.schemeOf name)))) ∧
    (∀ connection, run.value? = some (.ok connection) →
      connection.interceptor.token = configured.token ∧
      (connection.channel.uri.scheme? = some "https" ↔
        Uri.IsSecureTarget connection.endpoint)) := by
  intro options lookup run
  obtain ⟨htls, htoken⟩ := Auth.usesTls_and_token_of_configure hauth
  obtain ⟨heffects, hvalue⟩ : run.effects = _ ∧ run.value? = _ := dialWithAuth_of_configure hauth
  have hoptions : options.usesTls = true := htls
  refine ⟨⟨htls, htoken⟩, fun effect uri h hreached => ?_, fun effect uri h hreached => ?_,
    fun connection h => ?_⟩
  · rw [heffects, resolving_mem_iff] at h
    have hasked := Lookup.endpoint_of_mem_over (Resolver.mem_lookup_of_mem_resolve h) hreached
    -- The lookup has one limit more than the dial, and the same TLS settings.
    have hlookup : (options.withRequestTimeout limit).usesTls = true := htls
    exact (Dial.Options.scheme?_eq_https_iff hlookup hasked).mpr (.inl hbare)
  · rw [heffects, dialing_mem_iff] at h
    obtain ⟨resolution, hresolved, hdial⟩ := h
    have hendpoint := Dial.Network.endpoint_of_mem_dial hdial hreached
    refine ⟨resolution.endpoint, ?_, ?_, Dial.Options.scheme?_eq_https_iff hoptions hendpoint,
      fun hnames => Dial.Options.scheme?_of_named hoptions hnames hendpoint⟩
    · rw [heffects, dialing_mem_iff]
      refine ⟨resolution, hresolved, ?_⟩
      rw [Dial.Network.effects_dial]
      exact List.mem_cons_self
    · exact Resolver.endpoint_of_resolution hresolved
  · rw [hvalue] at h
    obtain ⟨connected, hconnected, hend⟩ := Option.map_eq_some_iff.mp h
    cases connected with
    | error error =>
      change Except.error (ConnectError.redirect error) = Except.ok connection at hend
      exact absurd hend (by simp)
    | ok connection' =>
      obtain rfl := Except.ok.inj hend
      obtain ⟨hchannel, hinterceptor⟩ := endpoint_of_connection hconnected
      refine ⟨?_, Dial.Options.scheme?_eq_https_iff hoptions hchannel⟩
      rw [hinterceptor]
      rfl

/-- Files of which each holds the same token. -/
def tokenFiles : File.System := ⟨fun _ => .ok (Text.Utf8.encode "secret")⟩

/-- A flag that names one of them. -/
def tokenFlag : Auth := ⟨Path.ofString "t", none⟩

/-- What the flag yields. -/
def tokenOptions : Dial.Options :=
  Dial.Options.plaintext.withNativeTls.withToken ⟨"secret", by decide⟩

/-- A network that takes every connection and assigns one host. -/
def assigning (host : String) : Dial.Network where
  accepts _ _ := .done true
  answer _ _ _ := .done (.ok ⟨some ⟨none, some ⟨[⟨some [host]⟩]⟩⟩⟩)

/-- To a host that is assigned without a scheme, the token goes over a secure channel. -/
theorem token_travels_secretly_to_bare_host :
    tokenFlag.configure tokenFiles = .ok tokenOptions ∧
      Uri.namesScheme "e:1".toList = false ∧
      ∃ connection,
        (dialWithAuth (assigning "h:1") tokenFiles .default "e:1" tokenFlag ⟨1⟩).value? =
          some (.ok connection) ∧
        connection.channel.uri.scheme? = some "https" := by
  have hauth : tokenFlag.configure tokenFiles = .ok tokenOptions := rfl
  have hbare : Uri.namesScheme "e:1".toList = false := by decide
  obtain ⟨-, -, -, hconnection⟩ := token_travels_as_assigned (assigning "h:1") tokenFiles .default
    "e:1" tokenFlag ⟨1⟩ hauth hbare
  refine ⟨hauth, hbare, _, rfl, ?_⟩
  exact (hconnection _ rfl).2.mpr (by decide)

/-- **An assigned scheme is kept.**  When the host is assigned with the plain scheme, a plain
address is opened, and the connection that holds the token is one to this address. -/
theorem assigned_scheme_is_kept :
    tokenFlag.configure tokenFiles = .ok tokenOptions ∧
      Uri.namesScheme "e:1".toList = false ∧
      .dialing (.opened ⟨some ⟨"http", "h:1"⟩, "", none⟩) ∈
        (dialWithAuth (assigning "http://h:1") tokenFiles .default "e:1" tokenFlag ⟨1⟩).effects ∧
      ∃ connection,
        (dialWithAuth (assigning "http://h:1") tokenFiles .default "e:1" tokenFlag ⟨1⟩).value? =
          some (.ok connection) ∧
        connection.channel.uri.scheme? = some "http" ∧
        connection.interceptor.token = tokenOptions.token := by
  refine ⟨rfl, by decide, ?_, _, rfl, rfl, rfl⟩
  decide +kernel

end Redirect
end RegionalDial
