/-
# What resolving does and how it ends

A resolver that is turned off does nothing and answers with the endpoint.  One that is turned on
does exactly one thing of its own, it starts a lookup; whatever else happens is what that lookup
does, from its start on.  So a run is known by two facts about the lookup: does it end in time,
and with which answer.

* **The setting.**  Of all values the variable can have, text or not, the five bytes of `false`
  are the only ones that turn a resolver off (`Toggle.ofBytes_eq_disabled_iff`).
* **The limit.**  A limit is kept by a clock with ticks, so a lookup is in time when it has ended
  by the tick at the end of the limit (`Resolver.InTime`).  An answer that comes after the limit
  and not after that tick still counts.
* **The choice.**  Of an assignment only the first host of the first cluster is looked at
  (`ClusterSet.IsHome`).
-/
import RegionalDial.Redirect.Resolver

namespace RegionalDial

open Text

/-! ## 1. The setting -/

/-- **Only the bytes of `false` turn redirection off.**  Bytes that are no text are no exception:
they cannot be these five. -/
theorem Toggle.ofBytes_eq_disabled_iff {setting : Option (List UInt8)} :
    Toggle.ofBytes setting = .disabled ↔ setting = some (Utf8.encode "false") := by
  cases setting with
  | none => simp [ofBytes]
  | some bytes =>
    rw [Option.some_inj]
    constructor
    · intro h
      simp only [ofBytes] at h
      split at h
      · rename_i value hvalue
        rw [parse_eq_disabled_iff] at h
        rw [← Utf8.encode_of_decode? hvalue, h]
      · exact absurd h (by decide)
    · rintro rfl
      simp only [ofBytes, Utf8.decode?_encode]
      exact parse_eq_disabled_iff.mpr rfl

theorem Toggle.isEnabled_eq_false_iff {toggle : Toggle} :
    toggle.isEnabled = false ↔ toggle = .disabled := by
  cases toggle <;> simp [isEnabled]

theorem Toggle.isEnabled_ofBytes_of_ne {setting : Option (List UInt8)}
    (h : setting ≠ some (Utf8.encode "false")) : (Toggle.ofBytes setting).isEnabled = true := by
  rw [← Bool.not_eq_false, isEnabled_eq_false_iff, ofBytes_eq_disabled_iff]
  exact h

/-! ## 2. The home host -/

/-- The host is the first one of the first cluster, and not all of it is blank. -/
def ClusterSet.IsHome (set : ClusterSet) (host : String) : Prop :=
  (∃ hosts clusters, set.clusters = ⟨host :: hosts⟩ :: clusters) ∧
    ∃ c ∈ host.toList, Blank.isBlank c = false

theorem Text.Blank.isBlankText_eq_false_iff {s : String} :
    Blank.isBlankText s = false ↔ ∃ c ∈ s.toList, Blank.isBlank c = false := by
  rw [Blank.isBlankText, List.all_eq_false]
  simp

/-- The host that is chosen is the home host, and there is no other choice. -/
theorem ClusterSet.target?_eq_some_iff {set : ClusterSet} {host : String} :
    set.target? = some host ↔ set.IsHome host := by
  rw [target?, Option.filter_eq_some_iff, Bool.not_eq_true', Blank.isBlankText_eq_false_iff, IsHome]
  refine and_congr_left fun _ => ?_
  rcases set with ⟨_ | ⟨⟨_ | ⟨first, hosts⟩⟩, clusters⟩⟩
  · simp [home?]
  · simp [home?]
  · simp [home?]

theorem ClusterSet.target?_eq_none_iff {set : ClusterSet} :
    set.target? = none ↔ ¬ ∃ host, set.IsHome host := by
  rw [Option.eq_none_iff_forall_ne_some]
  simp only [ne_eq, target?_eq_some_iff, not_exists]

namespace Redirect

variable {ε α : Type}

theorem Resolution.ofClusters_of_isHome {endpoint host : String} {clusters : ClusterSet}
    (h : clusters.IsHome host) : ofClusters endpoint clusters = .ok ⟨host, .redirected⟩ := by
  rw [ofClusters, ClusterSet.target?_eq_some_iff.mpr h]

theorem Resolution.ofClusters_of_no_home {endpoint : String} {clusters : ClusterSet}
    (h : ¬ ∃ host, clusters.IsHome host) :
    ofClusters endpoint clusters = .error (.noClusterTargets endpoint) := by
  rw [ofClusters, ClusterSet.target?_eq_none_iff.mpr h]

/-! ## 3. What a resolver does -/

/-- What a lookup is started for, where an effect is the start of one. -/
def Effect.lookup? : Effect ε → Option (String × Dial.Options)
  | .lookup endpoint options => some (endpoint, options)
  | .inLookup _ => none

/-- The lookups that a run starts, in order. -/
def lookups (run : Run (Effect ε) α) : List (String × Dial.Options) :=
  run.effects.filterMap Effect.lookup?

theorem filterMap_lookup?_inLookup (effects : List ε) :
    (effects.map Effect.inLookup).filterMap Effect.lookup? = [] := by
  simp [Effect.lookup?]

namespace Resolver

theorem resolve_of_disabled {resolver : Resolver ε} (h : resolver.toggle.isEnabled = false)
    (endpoint : String) (options : Dial.Options) :
    resolver.resolve endpoint options = .done (.ok ⟨endpoint, .disabled⟩) := by
  simp [resolve, h]

/-- **One lookup, and nothing besides it.**  A resolver that is turned on starts a lookup under
the options it was given; from there on it does what the lookup does, up to the limit. -/
theorem effects_resolve {resolver : Resolver ε} (h : resolver.toggle.isEnabled = true)
    (endpoint : String) (options : Dial.Options) :
    ∃ done, done <+: (resolver.lookup endpoint options).effects ∧
      (resolver.resolve endpoint options).effects =
        .lookup endpoint options :: done.map Effect.inLookup := by
  simp only [resolve, h, if_true, Lookup.ask]
  cases resolver.timeout with
  | none =>
    refine ⟨(resolver.lookup endpoint options).effects, List.prefix_rfl, ?_⟩
    simp only [Run.effects_map, Run.effects, Run.effects_mapEffects]
  | some limit =>
    have hprefix := Run.effects_cutAt_isPrefix
      (limit.toTick (resolver.sinceTick endpoint options)) (resolver.lookup endpoint options)
    refine ⟨_, hprefix, ?_⟩
    simp only [Run.effects_map, Run.within, Run.cutAt, Run.effects, Run.cutAt_mapEffects,
      Run.effects_mapEffects]

theorem lookups_resolve (resolver : Resolver ε) (endpoint : String) (options : Dial.Options) :
    lookups (resolver.resolve endpoint options) =
      if resolver.toggle.isEnabled then [(endpoint, options)] else [] := by
  cases h : resolver.toggle.isEnabled with
  | false => simp [resolve_of_disabled h, lookups, Run.effects]
  | true =>
    obtain ⟨done, -, heq⟩ := effects_resolve h endpoint options
    have hfirst : Effect.lookup? (.lookup endpoint options : Effect ε) = some (endpoint, options) :=
      rfl
    rw [lookups, heq, List.filterMap_cons_some hfirst, filterMap_lookup?_inLookup, if_pos rfl]

/-- Making no lookup means being turned off. -/
theorem lookups_resolve_eq_nil_iff {resolver : Resolver ε} {endpoint : String}
    {options : Dial.Options} :
    lookups (resolver.resolve endpoint options) = [] ↔ resolver.toggle = .disabled := by
  rw [lookups_resolve, ← Toggle.isEnabled_eq_false_iff]
  cases resolver.toggle.isEnabled <;> simp

/-! ## 4. How it ends -/

/-- The lookup ends in time: by the tick at the end of the limit, where there is a limit. -/
def InTime (resolver : Resolver ε) (endpoint : String) (options : Dial.Options) : Prop :=
  ∀ limit, resolver.timeout = some limit →
    (resolver.lookup endpoint options).EndsBy
      (limit.toTick (resolver.sinceTick endpoint options))

/-- A lookup that ends in time does all it does. -/
theorem effects_resolve_of_inTime {resolver : Resolver ε} {endpoint : String}
    {options : Dial.Options} (h : resolver.toggle.isEnabled = true)
    (hin : resolver.InTime endpoint options) :
    (resolver.resolve endpoint options).effects =
      .lookup endpoint options ::
        (resolver.lookup endpoint options).effects.map Effect.inLookup := by
  simp only [resolve, h, if_true, Lookup.ask]
  cases hlimit : resolver.timeout with
  | none => simp only [Run.effects_map, Run.effects, Run.effects_mapEffects]
  | some limit =>
    simp only [Run.effects_map, Run.within, Run.cutAt, Run.effects, Run.cutAt_mapEffects,
      Run.effects_mapEffects, Run.effects_cutAt_of_endsBy (hin limit hlimit)]

/-- Without a limit, the answer decides whenever it comes. -/
theorem value?_resolve_of_unlimited {resolver : Resolver ε} (h : resolver.toggle.isEnabled = true)
    (hlimit : resolver.timeout = none) (endpoint : String) (options : Dial.Options) :
    (resolver.resolve endpoint options).value? =
      (resolver.lookup endpoint options).value?.map (Resolution.ofAnswer endpoint) := by
  have hasked : (resolver.lookup.ask endpoint options).value? =
      (resolver.lookup endpoint options).value? := Run.value?_mapEffects _ _
  simp only [resolve, h, if_true, hlimit, Run.value?_map, hasked]

/-- An answer that comes in time decides. -/
theorem value?_resolve_of_inTime {resolver : Resolver ε} {endpoint : String}
    {options : Dial.Options} (h : resolver.toggle.isEnabled = true)
    (hin : resolver.InTime endpoint options) {answer : Except LookupError ClusterSet}
    (hanswer : (resolver.lookup endpoint options).value? = some answer) :
    (resolver.resolve endpoint options).value? = some (Resolution.ofAnswer endpoint answer) := by
  have hasked : (resolver.lookup.ask endpoint options).value? = some answer :=
    (Run.value?_mapEffects _ _).trans hanswer
  cases hlimit : resolver.timeout with
  | none => rw [value?_resolve_of_unlimited h hlimit, hanswer, Option.map_some]
  | some limit =>
    have hends : (resolver.lookup.ask endpoint options).EndsBy
        (limit.toTick (resolver.sinceTick endpoint options)) :=
      (Run.endsBy_mapEffects Effect.inLookup _ _).mpr (hin limit hlimit)
    simp only [resolve, h, if_true, hlimit, Run.value?_map,
      Run.value?_within_of_endsBy hasked hends, Option.map_some]

/-- A lookup that does not end in time is given up, whatever it would have answered. -/
theorem value?_resolve_of_late {resolver : Resolver ε} {endpoint : String}
    {options : Dial.Options} (h : resolver.toggle.isEnabled = true) {limit : Duration}
    (hlimit : resolver.timeout = some limit)
    (hlate : ¬ (resolver.lookup endpoint options).EndsBy
      (limit.toTick (resolver.sinceTick endpoint options))) :
    (resolver.resolve endpoint options).value? = some (.error (.timeout endpoint limit)) := by
  have hasked : ¬ (resolver.lookup.ask endpoint options).EndsBy
      (limit.toTick (resolver.sinceTick endpoint options)) := fun hends =>
    hlate ((Run.endsBy_mapEffects Effect.inLookup _ _).mp hends)
  simp only [resolve, h, if_true, hlimit, Run.value?_map, Run.value?_within_of_not_endsBy hasked,
    Option.map_some]

/-- **There is no other end.**  A resolver that is turned on ends because the limit is over or
because the lookup has answered in time. -/
theorem resolve_ends {resolver : Resolver ε} {endpoint : String} {options : Dial.Options}
    (h : resolver.toggle.isEnabled = true) {result : Except Error Resolution}
    (hresult : (resolver.resolve endpoint options).value? = some result) :
    (∃ limit, resolver.timeout = some limit ∧
        ¬ (resolver.lookup endpoint options).EndsBy
          (limit.toTick (resolver.sinceTick endpoint options)) ∧
        result = .error (.timeout endpoint limit)) ∨
      (∃ answer, (resolver.lookup endpoint options).value? = some answer ∧
        resolver.InTime endpoint options ∧ result = Resolution.ofAnswer endpoint answer) := by
  -- The lookup is in time or it is not; in time it may still never answer, where there is no limit.
  by_cases hin : resolver.InTime endpoint options
  · cases hanswer : (resolver.lookup endpoint options).value? with
    | some answer =>
      rw [value?_resolve_of_inTime h hin hanswer] at hresult
      exact .inr ⟨answer, rfl, hin, (Option.some.inj hresult).symm⟩
    | none =>
      exfalso
      cases hlimit : resolver.timeout with
      | none =>
        rw [value?_resolve_of_unlimited h hlimit, hanswer] at hresult
        exact absurd hresult (by simp)
      | some limit => exact absurd (hin limit hlimit).1 (by simp [hanswer])
  · simp only [InTime, Classical.not_forall] at hin
    obtain ⟨limit, hlimit, hlate⟩ := hin
    rw [value?_resolve_of_late h hlimit hlate] at hresult
    exact .inl ⟨limit, hlimit, hlate, (Option.some.inj hresult).symm⟩

/-- Where a resolution can lead: to the endpoint itself, or to the home host of the clusters that
the lookup brought. -/
theorem resolution_cases {resolver : Resolver ε} {endpoint : String} {options : Dial.Options}
    {resolution : Resolution}
    (h : (resolver.resolve endpoint options).value? = some (.ok resolution)) :
    resolution = ⟨endpoint, .disabled⟩ ∨ resolution = ⟨endpoint, .unimplemented⟩ ∨
      ∃ clusters, (resolver.lookup endpoint options).value? = some (.ok clusters) ∧
        clusters.IsHome resolution.endpoint ∧ resolution.reason = .redirected := by
  cases hon : resolver.toggle.isEnabled with
  | false =>
    rw [resolve_of_disabled hon] at h
    simp only [Run.value?, Option.some.injEq, Except.ok.injEq] at h
    exact .inl h.symm
  | true =>
    rcases resolve_ends hon h with ⟨limit, -, -, hresult⟩ | ⟨answer, hanswer, -, hresult⟩
    · exact absurd hresult (by simp)
    · cases answer with
      | error failure =>
        cases failure with
        | unimplemented other =>
          simp only [Resolution.ofAnswer, Except.ok.injEq] at hresult
          exact .inr (.inl hresult)
        | failed error => exact absurd hresult (by simp [Resolution.ofAnswer])
      | ok clusters =>
        simp only [Resolution.ofAnswer, Resolution.ofClusters] at hresult
        split at hresult
        · rename_i host hhost
          simp only [Except.ok.injEq] at hresult
          subst hresult
          exact .inr (.inr ⟨clusters, hanswer, ClusterSet.target?_eq_some_iff.mp hhost, rfl⟩)
        · exact absurd hresult (by simp)

/-- The endpoint of a resolution is the one that was given, or the home host of an assignment. -/
theorem endpoint_of_resolution {resolver : Resolver ε} {endpoint : String}
    {options : Dial.Options} {resolution : Resolution}
    (h : (resolver.resolve endpoint options).value? = some (.ok resolution)) :
    resolution.endpoint = endpoint ∨
      ∃ clusters, (resolver.lookup endpoint options).value? = some (.ok clusters) ∧
        clusters.IsHome resolution.endpoint := by
  rcases resolution_cases h with rfl | rfl | ⟨clusters, hclusters, hhome, -⟩
  · exact .inl rfl
  · exact .inl rfl
  · exact .inr ⟨clusters, hclusters, hhome⟩

end Resolver

/-! ## 5. Every end a lookup can have -/

/-- **What resolving does under a setting, and how it ends.**  No lookup and the endpoint itself
belong to the bytes of `false` and to nothing else.  Otherwise one lookup is made, for the endpoint
under the options, and all that is done besides is what this lookup does, up to the end of the
limit.  A limit is over at the clock's first tick that does not come early, wherever between two
ticks the lookup has started; when the lookup has not ended by then the error names the endpoint
and the limit, and when it has, its answer decides: no service means the endpoint itself, a failure
is passed on, and clusters mean their home host as it is written, or an error where there is
none. -/
theorem resolve_under_setting {ε : Type} (lookup : Lookup ε) (setting : Option (List UInt8))
    (timeout : Option Duration) (sinceTick : String → Dial.Options → Duration)
    (endpoint : String) (options : Dial.Options) :
    let resolver : Resolver ε := ⟨lookup, Toggle.ofBytes setting, timeout, sinceTick⟩
    let run := resolver.resolve endpoint options
    let asked := lookup endpoint options
    let since := sinceTick endpoint options
    ((lookups run = [] ∧ run.value? = some (.ok ⟨endpoint, .disabled⟩)) ↔
      setting = some (Utf8.encode "false")) ∧
    (setting = some (Utf8.encode "false") → run.effects = []) ∧
    (setting ≠ some (Utf8.encode "false") →
      (∃ done, done <+: asked.effects ∧
        run.effects = .lookup endpoint options :: done.map Effect.inLookup) ∧
      (∀ limit, timeout = some limit →
        (limit ≤ limit.toTick since ∧ (limit.toTick since).nanos < limit.nanos + 1000000) ∧
        (¬ asked.EndsBy (limit.toTick since) →
          run.value? = some (.error (.timeout endpoint limit)))) ∧
      ((∀ limit, timeout = some limit → asked.EndsBy (limit.toTick since)) →
        run.effects = .lookup endpoint options :: asked.effects.map Effect.inLookup ∧
        (∀ other, asked.value? = some (.error (.unimplemented other)) →
          run.value? = some (.ok ⟨endpoint, .unimplemented⟩)) ∧
        (∀ error, asked.value? = some (.error (.failed error)) →
          run.value? = some (.error error)) ∧
        (∀ clusters, asked.value? = some (.ok clusters) →
          (∀ host, clusters.IsHome host → run.value? = some (.ok ⟨host, .redirected⟩)) ∧
          ((¬ ∃ host, clusters.IsHome host) →
            run.value? = some (.error (.noClusterTargets endpoint)))))) := by
  intro resolver run asked since
  have hoff : setting = some (Utf8.encode "false") →
      run = .done (.ok ⟨endpoint, .disabled⟩) := fun hfalse =>
    Resolver.resolve_of_disabled
      (Toggle.isEnabled_eq_false_iff.mpr (Toggle.ofBytes_eq_disabled_iff.mpr hfalse))
      endpoint options
  refine ⟨⟨?_, ?_⟩, ?_, ?_⟩
  · rintro ⟨hnone, -⟩
    exact Toggle.ofBytes_eq_disabled_iff.mp (Resolver.lookups_resolve_eq_nil_iff.mp hnone)
  · intro hfalse
    rw [hoff hfalse]
    exact ⟨rfl, rfl⟩
  · intro hfalse
    rw [hoff hfalse]
    rfl
  · intro hne
    have hon : resolver.toggle.isEnabled = true := Toggle.isEnabled_ofBytes_of_ne hne
    refine ⟨Resolver.effects_resolve hon endpoint options, ?_, ?_⟩
    · intro limit hlimit
      exact ⟨limit.toTick_bounds since, Resolver.value?_resolve_of_late hon hlimit⟩
    · intro hin
      refine ⟨Resolver.effects_resolve_of_inTime hon hin, fun other h => ?_, fun error h => ?_,
        fun clusters h => ⟨fun host hhome => ?_, fun hnone => ?_⟩⟩
      · exact Resolver.value?_resolve_of_inTime hon hin h
      · exact Resolver.value?_resolve_of_inTime hon hin h
      · rw [Resolver.value?_resolve_of_inTime hon hin h, Resolution.ofAnswer,
          Resolution.ofClusters_of_isHome hhome]
      · rw [Resolver.value?_resolve_of_inTime hon hin h, Resolution.ofAnswer,
          Resolution.ofClusters_of_no_home hnone]

/-- A lookup that takes its time. -/
def slowLookup (delay : Duration) : Lookup Unit := fun _ _ =>
  .wait delay (.done (.ok ⟨[⟨["h"]⟩]⟩))

/-- **A limit is not kept to the nanosecond.**  Under a limit of one millisecond and a nanosecond,
an answer after two milliseconds comes too late and is taken all the same: the clock's next tick
is the end of the second millisecond. -/
theorem late_answer_before_the_tick_counts :
    ¬ (slowLookup (.ofMillis 2) "e" .plaintext).EndsBy ⟨1000001⟩ ∧
      (Resolver.resolve ⟨slowLookup (.ofMillis 2), Toggle.ofBytes none, some ⟨1000001⟩,
        fun _ _ => ⟨0⟩⟩ "e" .plaintext).value? = some (.ok ⟨"h", .redirected⟩) :=
  ⟨by decide, by rfl⟩

/-- Nor is a limit of one millisecond, when it begins between two ticks. -/
example : (Resolver.resolve ⟨slowLookup ⟨1400000⟩, .default, some (.ofMillis 1),
    fun _ _ => ⟨500000⟩⟩ "e" .plaintext).value? = some (.ok ⟨"h", .redirected⟩) := rfl

end Redirect
end RegionalDial
