/-
# What the flag for plaintext does

Where no authentication is asked for, two flags have a say in the TLS settings.  Plaintext asks for
none, and its absence for the roots of the host; a client certificate keeps what it finds and
brings settings of its own where it finds none.  So with a client certificate the flag for
plaintext does not take TLS away, it only takes the roots away (`Target.tls_of_dialOptions`), and
a server cannot be checked against no roots.  In every other case the flag decides alone.

The settings then decide the scheme for every target that names none, in the lookup and in the
dial after it, and whatever the network is by then.
-/
import RegionalDial.Proofs.Commands
import RegionalDial.Proofs.Credentials

namespace RegionalDial
namespace Command

/-! ## 1. The TLS settings of a target -/

namespace Target

variable {files : File.System} {target : Target} {options : Dial.Options}

/-- Do the flags name a client certificate and its key? -/
def namesIdentity (target : Target) : Bool :=
  target.clientCert.isSome && target.clientKey.isSome

/-- There is an identity when both files are named, and they could be read. -/
theorem isSome_of_identity {identity : Option Dial.Identity}
    (h : target.identity files = .ok identity) : identity.isSome = target.namesIdentity := by
  rw [Target.identity] at h
  rw [namesIdentity]
  split at h
  · rename_i hcert hkey
    split at h
    · exact absurd h (by simp)
    · split at h
      · exact absurd h (by simp)
      · rw [← Except.ok.inj h, hcert, hkey]
        rfl
  · rename_i hnot
    rw [← Except.ok.inj h]
    rcases hcert : target.clientCert with _ | cert
    · rfl
    · rcases hkey : target.clientKey with _ | key
      · rfl
      · exact absurd hkey (hnot cert key hcert)

/-- The TLS settings where no authentication is asked for. -/
def tlsWith (target : Target) : Option Dial.Identity → Option Dial.Tls
  | none => if target.plaintext then none else some ⟨.native, none⟩
  | some identity => some ⟨if target.plaintext then .none else .native, some identity⟩

/-- **Plaintext and the client certificate make the TLS settings.**  A certificate brings TLS, and
with plaintext it brings TLS without roots. -/
theorem tls_of_dialOptions (hauth : target.auth = none)
    (h : target.dialOptions files = .ok options) :
    ∃ identity, target.identity files = .ok identity ∧ options.tls = target.tlsWith identity := by
  obtain ⟨base, identity, hbase, hidentity, rfl⟩ := steps_of_dialOptions h
  rw [baseOptions, hauth] at hbase
  obtain rfl := Except.ok.inj hbase
  refine ⟨identity, hidentity, ?_⟩
  -- The limits leave the settings alone.
  cases identity with
  | none =>
    rw [Option.elim_none, tlsWith]
    split <;> rfl
  | some identity =>
    rw [Option.elim_some, tlsWith]
    split <;> rfl

/-- There is TLS unless plaintext is asked for and no client certificate is given. -/
theorem usesTls_of_dialOptions (hauth : target.auth = none)
    (h : target.dialOptions files = .ok options) :
    options.usesTls = (!target.plaintext || target.namesIdentity) := by
  obtain ⟨identity, hidentity, htls⟩ := tls_of_dialOptions hauth h
  rw [Dial.Options.usesTls, htls, ← isSome_of_identity hidentity]
  cases identity with
  | none => cases h : target.plaintext <;> simp [tlsWith, h]
  | some identity => simp [tlsWith]

end Target

/-! ## 2. The addresses that a command reaches -/

section Reached

variable {host : Host} {target : Target} {options : Dial.Options} {later : Dial.Network}
  {format : String} {effect : Dial.Effect} {uri : Uri}

/-- In the lookup a command reaches the address that the server means. -/
theorem endpoint_of_mem_resolve (hoptions : target.dialOptions host.files = .ok options)
    (h : .redirect (.resolving (.inLookup effect)) ∈ (resolve host target format).effects)
    (hreached : effect.reached? = some uri) : options.endpoint target.server = .ok uri := by
  rw [effects_resolve hoptions] at h
  simp only [List.mem_map, Effect.redirect.injEq, Redirect.Step.resolving.injEq,
    exists_eq_right] at h
  exact Redirect.Lookup.endpoint_of_mem_over (Redirect.Resolver.mem_lookup_of_mem_resolve h)
    hreached

/-- Connecting reaches no other address in its lookup. -/
theorem mem_resolve_of_mem_connectOver (hoptions : target.dialOptions host.files = .ok options)
    {step : Redirect.Effect Dial.Effect}
    (h : .redirect (.resolving step) ∈ (connectOver later host target).effects) :
    .redirect (.resolving step) ∈ (resolve host target format).effects := by
  rw [effects_connectOver_eq_append format hoptions, List.mem_append] at h
  simpa using h

/-- What connecting dials is what the resolver chose. -/
theorem dialing_mem_connectOver_iff (hoptions : target.dialOptions host.files = .ok options) :
    .redirect (.dialing effect) ∈ (connectOver later host target).effects ↔
      ∃ resolution, ((host.resolver target).resolve target.server options).value? =
          some (.ok resolution) ∧
        effect ∈ (later.dial resolution.endpoint options).effects := by
  rw [effects_connectOver hoptions, Redirect.connect, ← Redirect.dialing_mem_iff]
  simp

end Reached

/-! ## 3. Where the flag is honoured -/

/-- **Plaintext is honoured where no client certificate is given, and only there.**  Without
authentication, the options are without TLS when plaintext is asked for and with TLS when it is
not, except that a client certificate brings TLS to plaintext, and then without any roots.  Every
target that names no scheme is reached accordingly: the server in the lookup of either command, and
in the connection the host that is dialed, which is the server or the host that was assigned. -/
theorem plaintext_is_honoured_iff (host : Host) (target : Target) (format : String)
    (later : Dial.Network) {options : Dial.Options} (hauth : target.auth = none)
    (hoptions : target.dialOptions host.files = .ok options) :
    let scheme := if options.usesTls then "https" else "http"
    let resolved := resolve host target format
    let connected := connectOver later host target
    (options.usesTls = !target.plaintext ↔
      ¬ (target.plaintext = true ∧ target.namesIdentity = true)) ∧
    (target.plaintext = true → target.namesIdentity = true →
      ∃ identity, options.tls = some ⟨.none, some identity⟩) ∧
    (Uri.namesScheme target.server.toList = false → ∀ effect uri,
      effect.reached? = some uri →
      .redirect (.resolving (.inLookup effect)) ∈ resolved.effects ∨
        .redirect (.resolving (.inLookup effect)) ∈ connected.effects →
      uri.scheme? = some scheme) ∧
    (∀ effect uri, .redirect (.dialing effect) ∈ connected.effects →
      effect.reached? = some uri →
      ∃ server, .redirect (.dialing (.dial server options)) ∈ connected.effects ∧
        (server = target.server ∨
          ∃ clusters, ((host.resolver target).lookup target.server options).value? =
            some (.ok clusters) ∧ clusters.IsHome server) ∧
        (Uri.namesScheme server.toList = false → uri.scheme? = some scheme)) := by
  intro scheme resolved connected
  obtain ⟨identity, hidentity, htls⟩ := Target.tls_of_dialOptions hauth hoptions
  refine ⟨?_, fun hplain hnamed => ?_, fun hbare effect uri hreached h => ?_,
    fun effect uri h hreached => ?_⟩
  · rw [Target.usesTls_of_dialOptions hauth hoptions]
    cases target.plaintext <;> cases target.namesIdentity <;> decide
  · rw [← Target.isSome_of_identity hidentity] at hnamed
    obtain ⟨presented, rfl⟩ := Option.isSome_iff_exists.mp hnamed
    refine ⟨presented, ?_⟩
    rw [htls, Target.tlsWith, if_pos hplain]
  · have hresolved : .redirect (.resolving (.inLookup effect)) ∈ resolved.effects :=
      h.elim id (mem_resolve_of_mem_connectOver hoptions)
    exact Dial.Options.scheme?_of_bare hbare
      (endpoint_of_mem_resolve hoptions hresolved hreached)
  · obtain ⟨resolution, hresolution, hdial⟩ := (dialing_mem_connectOver_iff hoptions).mp h
    refine ⟨resolution.endpoint, ?_, ?_, fun hbare => ?_⟩
    · refine (dialing_mem_connectOver_iff hoptions).mpr ⟨resolution, hresolution, ?_⟩
      rw [Dial.Network.effects_dial]
      exact List.mem_cons_self
    · exact Redirect.Resolver.endpoint_of_resolution hresolution
    · exact Dial.Options.scheme?_of_bare hbare
        (Dial.Network.endpoint_of_mem_dial hdial hreached)

/-- A host on which every path leads to the same file, in a network that assigns one host. -/
def assigningHost : Host where
  files := ⟨fun _ => .ok (Text.Utf8.encode "x")⟩
  toggleVariable := none
  network := Redirect.assigning "h:1"
  canListen _ := true

/-- A target that is asked for in plaintext. -/
def plainTarget : Target := ⟨"e:1", none, none, none, true, 5⟩

/-- The same target with a client certificate and its key. -/
def plainTargetWithIdentity : Target :=
  { plainTarget with
    clientCert := some (Path.ofString "c"), clientKey := some (Path.ofString "k") }

/-- The options of either target, but for the TLS settings. -/
def fiveSeconds (tls : Option Dial.Tls) : Dial.Options :=
  ⟨tls, none, some (Duration.ofSeconds 5), some (Duration.ofSeconds 5)⟩

/-- Without a client certificate the server is looked up plainly, and so is the host dialed that it
assigns. -/
theorem plain_target_is_reached_plainly :
    plainTarget.auth = none ∧
      plainTarget.dialOptions assigningHost.files = .ok (fiveSeconds none) ∧
      (∃ uri, .redirect (.resolving (.inLookup (.opened uri))) ∈
          (connectOver assigningHost.network assigningHost plainTarget).effects ∧
        uri.scheme? = some "http") ∧
      ∃ uri, .redirect (.dialing (.opened uri)) ∈
          (connectOver assigningHost.network assigningHost plainTarget).effects ∧
        uri.scheme? = some "http" := by
  have hauth : plainTarget.auth = none := rfl
  have hoptions : plainTarget.dialOptions assigningHost.files = .ok (fiveSeconds none) := rfl
  obtain ⟨-, -, hlookup, -⟩ :=
    plaintext_is_honoured_iff assigningHost plainTarget "text" assigningHost.network hauth hoptions
  have hopened : .redirect (.resolving (.inLookup (.opened ⟨some ⟨"http", "e:1"⟩, "", none⟩))) ∈
      (connectOver assigningHost.network assigningHost plainTarget).effects := by decide
  have hdialed : .redirect (.dialing (.opened ⟨some ⟨"http", "h:1"⟩, "", none⟩)) ∈
      (connectOver assigningHost.network assigningHost plainTarget).effects := by decide
  refine ⟨hauth, hoptions, ⟨_, hopened, ?_⟩, ⟨_, hdialed, ?_⟩⟩
  · exact hlookup (by decide) _ _ rfl (.inr hopened)
  · rfl

/-- **A client certificate overrides plaintext.**  The flag is given and there is no
authentication, and yet the options have TLS settings, and no plain address is opened: without
roots, and with files that hold no certificate, none is opened at all. -/
theorem identity_overrides_plaintext :
    plainTargetWithIdentity.auth = none ∧ plainTargetWithIdentity.plaintext = true ∧
      ∃ options, plainTargetWithIdentity.dialOptions assigningHost.files = .ok options ∧
        options.usesTls = true ∧
        (connect assigningHost plainTargetWithIdentity).effects =
          [.redirect (.resolving (.lookup "e:1" options)),
            .redirect (.resolving (.inLookup (.dial "e:1" options)))] :=
  ⟨rfl, rfl, _, rfl, rfl, by decide⟩

end Command
end RegionalDial
