/-
# When the endpoint itself is taken for want of a service

Of all ends that a lookup over a network can have, one means that there is no service to ask: the
lookup was connected, and its question was answered with the status code of number 12.  The
message that comes with the code has no say.  A connection that was refused, a status with any
other code and an answer of any shape lead elsewhere.

* **One lookup.**  A lookup is refused when it is dialed, or it is answered
  (`Lookup.value?_over_eq_some_iff`).  From either the resolution follows.
* **Two networks.**  Networks that answer alike up to the messages of their statuses are told
  apart by nothing but these messages: the runs are the same, step by step, when the messages are
  left out (`Resolver.resolve_withoutMessage`, `resolveThenDial_withoutMessage`).
  Every function on the way commutes with leaving the message out, and so does every limit.
-/
import RegionalDial.Proofs.Credentials

namespace RegionalDial

/-! ## 1. Codes -/

/-- The numbers that name no code are *unknown*. -/
theorem StatusCode.ofNumber_of_outside {n : Int} (h : n < 0 ∨ 16 < n) :
    StatusCode.ofNumber n = .unknown := by
  unfold ofNumber
  split
  · have hlen : all.length ≤ n.toNat := by
      simp only [all, List.length]
      omega
    rw [List.getD_eq_getElem?_getD, List.getElem?_eq_none hlen, Option.getD_none]
  · rfl

namespace Redirect

variable {network : Dial.Network} {endpoint : String} {options : Dial.Options}

/-- Is this the error for a call that found no service? -/
def Error.IsMissingService (error : Error) : Prop :=
  ∃ endpoint message, error = .rpc endpoint ⟨.unimplemented, message⟩

/-! ## 2. The ends of a lookup -/

namespace Lookup

/-- The lookup is refused when it is dialed. -/
def Refused (network : Dial.Network) (endpoint : String) (options : Dial.Options)
    (error : Dial.Error) : Prop :=
  (network.dial endpoint options).value? = some (.error error)

/-- The lookup is connected, and the one question over its channel is answered so. -/
def Answered (network : Dial.Network) (endpoint : String) (options : Dial.Options)
    (answer : Except Status AssignmentResponse) : Prop :=
  ∃ channel, (network.dial endpoint options).value? = some (.ok channel) ∧
    (network.getOne channel options.interceptor ⟨none⟩).value? = some answer

/-- What an answer means for the lookup. -/
def ofAnswer (endpoint : String) : Except Status AssignmentResponse → Except LookupError ClusterSet
  | .error status => .error (LookupError.ofStatus endpoint status)
  | .ok response => .ok (ClusterSet.ofAssignment response.value)

theorem over_eq (network : Dial.Network) (endpoint : String) (options : Dial.Options) :
    Lookup.over network endpoint options =
      (network.dial endpoint options).bind fun dialed =>
        match dialed with
        | .error error => .done (.error (.failed (.dial endpoint error)))
        | .ok channel =>
          (network.getOne channel options.interceptor ⟨none⟩).map (ofAnswer endpoint) :=
  rfl

/-- **A lookup ends refused, or it ends answered.** -/
theorem value?_over_eq_some_iff {found : Except LookupError ClusterSet} :
    (Lookup.over network endpoint options).value? = some found ↔
      (∃ error, Refused network endpoint options error ∧
        found = .error (.failed (.dial endpoint error))) ∨
      (∃ answer, Answered network endpoint options answer ∧ found = ofAnswer endpoint answer) := by
  rw [over_eq, Run.value?_bind, Option.bind_eq_some_iff]
  constructor
  · rintro ⟨dialed, hdialed, hfound⟩
    cases dialed with
    | error error => exact .inl ⟨error, hdialed, (Option.some.inj hfound).symm⟩
    | ok channel =>
      simp only [Run.value?_map, Option.map_eq_some_iff] at hfound
      obtain ⟨answer, hanswer, rfl⟩ := hfound
      exact .inr ⟨answer, ⟨channel, hdialed, hanswer⟩, rfl⟩
  · rintro (⟨error, hrefused, rfl⟩ | ⟨answer, ⟨channel, hdialed, hanswer⟩, rfl⟩)
    · exact ⟨.error error, hrefused, rfl⟩
    · refine ⟨.ok channel, hdialed, ?_⟩
      simp only [Run.value?_map, hanswer, Option.map_some]

/-- No service is found when the code is the one for it, whatever the message. -/
theorem ofAnswer_eq_unimplemented_iff {answer : Except Status AssignmentResponse} :
    Resolution.ofAnswer endpoint (ofAnswer endpoint answer) = .ok ⟨endpoint, .unimplemented⟩ ↔
      ∃ message, answer = .error ⟨.unimplemented, message⟩ := by
  constructor
  · intro h
    rcases answer with ⟨code, message⟩ | response
    · by_cases hcode : code = .unimplemented
      · exact ⟨message, by rw [hcode]⟩
      · simp [ofAnswer, LookupError.ofStatus, hcode, Resolution.ofAnswer] at h
    · simp only [ofAnswer, Resolution.ofAnswer, Resolution.ofClusters] at h
      split at h <;> simp at h
  · rintro ⟨message, rfl⟩
    rfl

/-- With any other code the status is the error, as it came. -/
theorem ofAnswer_of_other {status : Status} (h : status.code ≠ .unimplemented) :
    Resolution.ofAnswer endpoint (ofAnswer endpoint (.error status)) =
      .error (.rpc endpoint status) := by
  simp [ofAnswer, LookupError.ofStatus, h, Resolution.ofAnswer]

/-- An answer never becomes the error for a missing service. -/
theorem not_isMissingService_of_ofAnswer {answer : Except Status AssignmentResponse} {error : Error}
    (h : Resolution.ofAnswer endpoint (ofAnswer endpoint answer) = .error error) :
    ¬ error.IsMissingService := by
  rintro ⟨other, message, rfl⟩
  rcases answer with status | response
  · by_cases hcode : status.code = .unimplemented
    · simp [ofAnswer, LookupError.ofStatus, hcode, Resolution.ofAnswer] at h
    · rw [ofAnswer_of_other hcode] at h
      obtain ⟨-, rfl⟩ := Error.rpc.inj (Except.error.inj h)
      exact hcode rfl
  · simp only [ofAnswer, Resolution.ofAnswer, Resolution.ofClusters] at h
    split at h <;> simp at h

end Lookup

/-! ## 3. The ends of a resolver -/

namespace Resolver

variable {toggle : Toggle} {timeout : Option Duration}

/-- Without a limit, the resolution is what the end of the lookup means. -/
theorem value?_resolve_over (h : toggle.isEnabled = true) :
    (resolve (.over network toggle none) endpoint options).value? =
      (Lookup.over network endpoint options).value?.map (Resolution.ofAnswer endpoint) :=
  value?_resolve_of_unlimited h rfl endpoint options

theorem value?_resolve_of_refused {error : Dial.Error} (h : toggle.isEnabled = true)
    (hrefused : Lookup.Refused network endpoint options error) :
    (resolve (.over network toggle none) endpoint options).value? =
      some (.error (.dial endpoint error)) := by
  have hfound := Lookup.value?_over_eq_some_iff.mpr (.inl ⟨error, hrefused, rfl⟩)
  rw [value?_resolve_over h, hfound]
  rfl

theorem value?_resolve_of_answered {answer : Except Status AssignmentResponse}
    (h : toggle.isEnabled = true) (hanswered : Lookup.Answered network endpoint options answer) :
    (resolve (.over network toggle none) endpoint options).value? =
      some (Resolution.ofAnswer endpoint (Lookup.ofAnswer endpoint answer)) := by
  have hfound := Lookup.value?_over_eq_some_iff.mpr (.inr ⟨answer, hanswered, rfl⟩)
  rw [value?_resolve_over h, hfound]
  rfl

/-- **The endpoint itself is taken when the service is missing, and then only.** -/
theorem value?_resolve_eq_unimplemented_iff (h : toggle.isEnabled = true) :
    (resolve (.over network toggle none) endpoint options).value? =
        some (.ok ⟨endpoint, .unimplemented⟩) ↔
      ∃ message, Lookup.Answered network endpoint options (.error ⟨.unimplemented, message⟩) := by
  constructor
  · intro hresolved
    rw [value?_resolve_over h] at hresolved
    obtain ⟨found, hfound, hresult⟩ := Option.map_eq_some_iff.mp hresolved
    rcases Lookup.value?_over_eq_some_iff.mp hfound with ⟨error, -, rfl⟩ | ⟨answer, hanswered, rfl⟩
    · exact absurd hresult (by simp [Resolution.ofAnswer])
    · obtain ⟨message, rfl⟩ := Lookup.ofAnswer_eq_unimplemented_iff.mp hresult
      exact ⟨message, hanswered⟩
  · rintro ⟨message, hanswered⟩
    exact value?_resolve_of_answered h hanswered

/-- The missing service is never an error: it has become a resolution. -/
theorem not_isMissingService_of_resolve {error : Error}
    (h : (resolve (.over network toggle timeout) endpoint options).value? =
      some (.error error)) : ¬ error.IsMissingService := by
  cases hon : toggle.isEnabled with
  | false =>
    rw [resolve_of_disabled hon] at h
    exact absurd h (by simp [Run.value?])
  | true =>
    rcases resolve_ends hon h with ⟨limit, -, -, hresult⟩ | ⟨found, hfound, -, hresult⟩
    · obtain rfl := Except.error.inj hresult
      simp [Error.IsMissingService]
    · rcases Lookup.value?_over_eq_some_iff.mp hfound with ⟨cause, -, rfl⟩ | ⟨answer, -, rfl⟩
      · obtain rfl := Except.error.inj hresult
        simp [Error.IsMissingService]
      · exact Lookup.not_isMissingService_of_ofAnswer hresult.symm

end Resolver

section Connecting

variable {toggle : Toggle} {timeout : Option Duration} {lookupOptions : Dial.Options}

/-- Nor does the dial after it bring such an error. -/
theorem not_isMissingService_of_resolveThenDial {error : Error}
    (h : (resolveThenDial network (.over network toggle timeout) endpoint lookupOptions
      options).value? = some (.error error)) : ¬ error.IsMissingService := by
  rw [value?_resolveThenDial] at h
  obtain ⟨resolved, hresolved, hend⟩ := Option.bind_eq_some_iff.mp h
  cases resolved with
  | error cause =>
    obtain rfl := Except.error.inj (Option.some.inj hend)
    exact Resolver.not_isMissingService_of_resolve hresolved
  | ok resolution =>
    simp only [value?_dialResolved] at hend
    obtain ⟨dialed, -, hdone⟩ := Option.map_eq_some_iff.mp hend
    cases dialed with
    | error cause =>
      obtain rfl := Except.error.inj hdone
      simp [Error.IsMissingService]
    | ok channel => exact absurd hdone (by simp)

theorem not_isMissingService_of_dialWithAuth {files : File.System} {auth : Auth} {limit : Duration}
    {error : Error}
    (h : (dialWithAuth network files toggle endpoint auth limit).value? =
      some (.error (.redirect error))) : ¬ error.IsMissingService := by
  cases hauth : auth.configure files with
  | error refused => simp [dialWithAuth, hauth, Run.value?] at h
  | ok configured =>
    rw [(dialWithAuth_of_configure hauth).2] at h
    obtain ⟨connected, hconnected, hend⟩ := Option.map_eq_some_iff.mp h
    cases connected with
    | error cause =>
      obtain rfl := ConnectError.redirect.inj (Except.error.inj hend)
      exact not_isMissingService_of_resolveThenDial hconnected
    | ok connection =>
      change Except.ok connection = Except.error _ at hend
      exact absurd hend (by simp)

end Connecting

end Redirect

/-! ## 4. Leaving the messages out -/

/-- The status with an empty message. -/
def Status.withoutMessage (status : Status) : Status := { status with message := "" }

namespace Dial.Network

/-- Two networks that accept the same connections and answer alike, at the same times and up to
the messages of their statuses. -/
structure SameButMessages (a b : Network) : Prop where
  accepts : a.accepts = b.accepts
  answer : ∀ uri headers request,
    (a.answer uri headers request).map (Except.mapError Status.withoutMessage) =
      (b.answer uri headers request).map (Except.mapError Status.withoutMessage)
  sinceTick : a.sinceTick = b.sinceTick

theorem SameButMessages.dial_eq {a b : Network} (h : a.SameButMessages b) (target : String)
    (options : Options) : a.dial target options = b.dial target options := by
  simp only [dial, h.accepts, h.sinceTick]

/-- A call without its message is a call that is answered without one. -/
theorem getOne_withoutMessage (network : Network) (channel : Channel) (interceptor : Interceptor)
    (request : AssignmentRequest) :
    (network.getOne channel interceptor request).map (Except.mapError Status.withoutMessage) =
      .effect (.asked channel.uri (interceptor.apply Metadata.empty) request)
        (((Run.ofPending ((network.answer channel.uri (interceptor.apply Metadata.empty)
            request).map (Except.mapError Status.withoutMessage))).withinOptional
          channel.requestTimeout (network.sinceTick (.asked channel.uri
            (interceptor.apply Metadata.empty) request))).map fun answer =>
              answer.getD (.error expired.withoutMessage)) := by
  have hcall : ∀ answered : Option (Except Status AssignmentResponse),
      (answered.getD (.error expired)).mapError Status.withoutMessage =
        (answered.map (Except.mapError Status.withoutMessage)).getD
          (.error expired.withoutMessage) := fun answered => by cases answered <;> rfl
  rw [Run.ofPending, Run.mapEffects_map, Run.withinOptional_map, ← Run.map_comm hcall]
  rfl

theorem SameButMessages.getOne {a b : Network} (h : a.SameButMessages b) (channel : Channel)
    (interceptor : Interceptor) (request : AssignmentRequest) :
    (a.getOne channel interceptor request).map (Except.mapError Status.withoutMessage) =
      (b.getOne channel interceptor request).map (Except.mapError Status.withoutMessage) := by
  simp only [getOne_withoutMessage, h.answer, h.sinceTick]

end Dial.Network

namespace Redirect

/-- The error with an empty message in its status. -/
def Error.withoutMessage : Error → Error
  | .rpc endpoint status => .rpc endpoint status.withoutMessage
  | error => error

def LookupError.withoutMessage : LookupError → LookupError
  | .failed error => .failed error.withoutMessage
  | error => error

def ConnectError.withoutMessage : ConnectError → ConnectError
  | .redirect error => .redirect error.withoutMessage
  | error => error

/-- What a status means does not hang on its message. -/
theorem LookupError.withoutMessage_ofStatus (endpoint : String) (status : Status) :
    (ofStatus endpoint status).withoutMessage = ofStatus endpoint status.withoutMessage := by
  rw [ofStatus, ofStatus, Status.withoutMessage]
  split <;> rfl

theorem Lookup.withoutMessage_ofAnswer (endpoint : String)
    (answer : Except Status AssignmentResponse) :
    (ofAnswer endpoint answer).mapError LookupError.withoutMessage =
      ofAnswer endpoint (answer.mapError Status.withoutMessage) := by
  cases answer with
  | error status =>
    exact congrArg Except.error (LookupError.withoutMessage_ofStatus endpoint status)
  | ok response => rfl

theorem Resolution.withoutMessage_ofAnswer (endpoint : String)
    (found : Except LookupError ClusterSet) :
    (ofAnswer endpoint found).mapError Error.withoutMessage =
      ofAnswer endpoint (found.mapError LookupError.withoutMessage) := by
  rcases found with (other | error) | clusters
  · rfl
  · rfl
  · change (ofClusters endpoint clusters).mapError _ = ofClusters endpoint clusters
    rw [ofClusters]
    cases clusters.target? <;> rfl

/-- What an answer under a limit means: it may not have come. -/
def Resolution.ofTimely (endpoint : String) (limit : Duration) :
    Option (Except LookupError ClusterSet) → Except Error Resolution
  | some found => ofAnswer endpoint found
  | none => .error (.timeout endpoint limit)

theorem Resolution.withoutMessage_ofTimely (endpoint : String) (limit : Duration)
    (found : Option (Except LookupError ClusterSet)) :
    (ofTimely endpoint limit found).mapError Error.withoutMessage =
      ofTimely endpoint limit (found.map (Except.mapError LookupError.withoutMessage)) := by
  cases found with
  | none => rfl
  | some found => exact withoutMessage_ofAnswer endpoint found

/-- A run without its messages is the resolver without its messages, and then the dial. -/
theorem resolveThenDial_withoutMessage_eq {ε : Type} (network : Dial.Network)
    (resolver : Resolver ε) (endpoint : String) (lookupOptions options : Dial.Options) :
    (resolveThenDial network resolver endpoint lookupOptions options).map
        (Except.mapError Error.withoutMessage) =
      (((resolver.resolve endpoint lookupOptions).map
          (Except.mapError Error.withoutMessage)).mapEffects Step.resolving).bind fun resolved =>
        match resolved with
        | .error error => .done (.error error)
        | .ok resolution => ((dialResolved network resolution options).map
            (Except.mapError Error.withoutMessage)).mapEffects Step.dialing := by
  rw [resolveThenDial, Run.map_bind, Run.mapEffects_map, Run.bind_map]
  congr 1
  funext resolved
  cases resolved with
  | error error => rfl
  | ok resolution => exact (Run.mapEffects_map _ _ _).symm

section TwoNetworks

variable {a b : Dial.Network}

theorem Lookup.over_withoutMessage (h : a.SameButMessages b) (endpoint : String)
    (options : Dial.Options) :
    (Lookup.over a endpoint options).map (Except.mapError LookupError.withoutMessage) =
      (Lookup.over b endpoint options).map (Except.mapError LookupError.withoutMessage) := by
  simp only [over_eq, Run.map_bind, h.dial_eq]
  refine congrArg (Run.bind _) (funext fun dialed => ?_)
  cases dialed with
  | error error => rfl
  | ok channel =>
    simp only [Run.map_comm (withoutMessage_ofAnswer endpoint)]
    rw [h.getOne]

/-- Asking one network or the other is the same, but for the messages. -/
theorem Lookup.ask_withoutMessage (h : a.SameButMessages b) (endpoint : String)
    (options : Dial.Options) :
    (ask (Lookup.over a) endpoint options).map (Except.mapError LookupError.withoutMessage) =
      (ask (Lookup.over b) endpoint options).map
        (Except.mapError LookupError.withoutMessage) := by
  have hlookup := congrArg (Run.mapEffects Effect.inLookup)
    (Lookup.over_withoutMessage h endpoint options)
  rw [Run.mapEffects_map, Run.mapEffects_map] at hlookup
  exact congrArg (Run.effect (.lookup endpoint options)) hlookup

/-- **Resolving over the two networks is the same, but for the messages.** -/
theorem Resolver.resolve_withoutMessage (h : a.SameButMessages b) (toggle : Toggle)
    (timeout : Option Duration) (endpoint : String) (options : Dial.Options) :
    (resolve (.over a toggle timeout) endpoint options).map
        (Except.mapError Error.withoutMessage) =
      (resolve (.over b toggle timeout) endpoint options).map
        (Except.mapError Error.withoutMessage) := by
  cases hon : toggle.isEnabled with
  | false => rw [resolve_of_disabled hon, resolve_of_disabled hon]
  | true =>
    have hlookup := Lookup.ask_withoutMessage h endpoint options
    simp only [resolve, Resolver.over, hon, if_true, Lookup.sinceTickOver, h.sinceTick]
    cases timeout with
    | none =>
      simp only [Run.map_comm (Resolution.withoutMessage_ofAnswer endpoint)]
      rw [hlookup]
    | some limit =>
      let within (run : Run (Effect Dial.Effect) (Except LookupError ClusterSet)) :=
        run.withinOptional (some limit) (b.sinceTick (.dial endpoint options))
      have hin := congrArg within hlookup
      simp only [within, Run.withinOptional_map] at hin
      change ((within _).map (Resolution.ofTimely endpoint limit)).map _ =
        ((within _).map (Resolution.ofTimely endpoint limit)).map _
      simp only [Run.map_comm (Resolution.withoutMessage_ofTimely endpoint limit), within]
      rw [hin]

theorem resolveThenDial_withoutMessage (h : a.SameButMessages b) (toggle : Toggle)
    (timeout : Option Duration) (endpoint : String) (lookupOptions options : Dial.Options) :
    (resolveThenDial a (.over a toggle timeout) endpoint lookupOptions options).map
        (Except.mapError Error.withoutMessage) =
      (resolveThenDial b (.over b toggle timeout) endpoint lookupOptions options).map
        (Except.mapError Error.withoutMessage) := by
  rw [resolveThenDial_withoutMessage_eq, resolveThenDial_withoutMessage_eq,
    Resolver.resolve_withoutMessage h]
  simp only [dialResolved, h.dial_eq]

theorem dialWithAuth_withoutMessage (h : a.SameButMessages b) (files : File.System)
    (toggle : Toggle) (endpoint : String) (auth : Auth) (limit : Duration) :
    (dialWithAuth a files toggle endpoint auth limit).map
        (Except.mapError ConnectError.withoutMessage) =
      (dialWithAuth b files toggle endpoint auth limit).map
        (Except.mapError ConnectError.withoutMessage) := by
  cases hauth : auth.configure files with
  | error error => simp only [dialWithAuth, hauth]
  | ok configured =>
    have hwrap : ∀ connected : Except Error Connection,
        (connected.mapError ConnectError.redirect).mapError ConnectError.withoutMessage =
          (connected.mapError Error.withoutMessage).mapError ConnectError.redirect :=
      fun connected => by cases connected <;> rfl
    rw [dialWithAuth_eq hauth, dialWithAuth_eq hauth, Run.map_comm hwrap, Run.map_comm hwrap,
      resolveThenDial_withoutMessage h]

/-- Whether the endpoint itself is taken is the same over both networks. -/
theorem Resolver.value?_resolve_eq_ok_iff (h : a.SameButMessages b) {toggle : Toggle}
    {timeout : Option Duration} {endpoint : String} {options : Dial.Options}
    {resolution : Resolution} :
    (resolve (.over a toggle timeout) endpoint options).value? = some (.ok resolution) ↔
      (resolve (.over b toggle timeout) endpoint options).value? =
        some (.ok resolution) := by
  have hvalue := congrArg Run.value? (resolve_withoutMessage h toggle timeout endpoint options)
  rw [Run.value?_map, Run.value?_map] at hvalue
  have hok : ∀ ended : Option (Except Error Resolution),
      ended.map (Except.mapError Error.withoutMessage) = some (.ok resolution) ↔
        ended = some (.ok resolution) := fun ended => by
    rcases ended with _ | error | other
    · rfl
    · change some (Except.error _) = _ ↔ _
      simp
    · rfl
  rw [← hok, hvalue, hok]

end TwoNetworks

/-! ## 5. The code decides -/

/-- **Of all ends of a lookup, only the status code of number 12 leads back to the endpoint.**
With a resolver that is turned on and has no limit, the endpoint itself is taken for want of a
service when the lookup was connected and answered with this code, and in no other case: a refused
dial and any other code are errors that keep what they were told, and an answer of any shape is
asked for its home host.  So no error tells of a missing service, and networks that differ in the
messages of their statuses alone resolve alike and do the same, step by step. -/
theorem fallback_is_decided_by_the_code (network : Dial.Network) (endpoint : String)
    (options : Dial.Options) :
    (∀ toggle : Toggle, toggle.isEnabled = true →
      let resolver := Resolver.over network toggle none
      let resolved := (resolver.resolve endpoint options).value?
      (resolved = some (.ok ⟨endpoint, .unimplemented⟩) ↔
        ∃ message, Lookup.Answered network endpoint options (.error ⟨.ofNumber 12, message⟩)) ∧
      (∀ error, Lookup.Refused network endpoint options error →
        resolved = some (.error (.dial endpoint error))) ∧
      (∀ (n : Int) (message : String), n ≠ 12 →
        Lookup.Answered network endpoint options (.error ⟨.ofNumber n, message⟩) →
        resolved = some (.error (.rpc endpoint ⟨.ofNumber n, message⟩))) ∧
      (∀ response, Lookup.Answered network endpoint options (.ok response) →
        let clusters := ClusterSet.ofAssignment response.value
        (∀ host, clusters.IsHome host → resolved = some (.ok ⟨host, .redirected⟩)) ∧
        ((¬ ∃ host, clusters.IsHome host) →
          resolved = some (.error (.noClusterTargets endpoint))))) ∧
    (∀ n : Int, n < 0 ∨ 16 < n → StatusCode.ofNumber n = .unknown) ∧
    (∀ (toggle : Toggle) (timeout : Option Duration) (error : Error),
      let resolver := Resolver.over network toggle timeout
      (resolver.resolve endpoint options).value? = some (.error error) ∨
        (connect network resolver endpoint options).value? = some (.error error) ∨
        (∃ files auth limit, (dialWithAuth network files toggle endpoint auth limit).value? =
          some (.error (.redirect error))) →
      ∀ other message, error ≠ .rpc other ⟨.unimplemented, message⟩) ∧
    (∀ (twin : Dial.Network) (toggle : Toggle) (timeout : Option Duration),
      network.SameButMessages twin →
      let resolver := Resolver.over network toggle timeout
      let twinResolver := Resolver.over twin toggle timeout
      ((resolver.resolve endpoint options).value? = some (.ok ⟨endpoint, .unimplemented⟩) ↔
        (twinResolver.resolve endpoint options).value? =
          some (.ok ⟨endpoint, .unimplemented⟩)) ∧
      (connect network resolver endpoint options).map (Except.mapError Error.withoutMessage) =
        (connect twin twinResolver endpoint options).map (Except.mapError Error.withoutMessage) ∧
      ∀ files auth limit,
        (dialWithAuth network files toggle endpoint auth limit).map
            (Except.mapError ConnectError.withoutMessage) =
          (dialWithAuth twin files toggle endpoint auth limit).map
            (Except.mapError ConnectError.withoutMessage)) := by
  refine ⟨fun toggle hon => ?_, fun n => StatusCode.ofNumber_of_outside,
    fun toggle timeout error h other message heq => ?_, fun twin toggle timeout h => ?_⟩
  · intro resolver resolved
    refine ⟨Resolver.value?_resolve_eq_unimplemented_iff hon,
      fun error hrefused => Resolver.value?_resolve_of_refused hon hrefused,
      fun n message hn hanswered => ?_, fun response hanswered => ?_⟩
    · have hcode : StatusCode.ofNumber n ≠ .unimplemented :=
        fun h => hn (StatusCode.ofNumber_eq_unimplemented_iff.mp h)
      have hresolved := Resolver.value?_resolve_of_answered hon hanswered
      rwa [Lookup.ofAnswer_of_other hcode] at hresolved
    · have hresolved : resolved = some (Resolution.ofClusters endpoint _) :=
        Resolver.value?_resolve_of_answered hon hanswered
      refine ⟨fun host hhome => ?_, fun hnone => ?_⟩
      · rw [hresolved, Resolution.ofClusters_of_isHome hhome]
      · rw [hresolved, Resolution.ofClusters_of_no_home hnone]
  · have hmissing : error.IsMissingService := ⟨other, message, heq⟩
    rcases h with h | h | ⟨files, auth, limit, h⟩
    · exact Resolver.not_isMissingService_of_resolve h hmissing
    · exact not_isMissingService_of_resolveThenDial h hmissing
    · exact not_isMissingService_of_dialWithAuth h hmissing
  · intro resolver twinResolver
    exact ⟨Resolver.value?_resolve_eq_ok_iff h,
      resolveThenDial_withoutMessage h toggle timeout endpoint options options,
      fun files auth limit => dialWithAuth_withoutMessage h files toggle endpoint auth limit⟩

/-- A network that takes every connection and answers with one status. -/
def refusing (code : Int) : Dial.Network where
  accepts _ _ := .done true
  answer _ _ _ := .done (.error ⟨.ofNumber code, "unimplemented"⟩)

/-- A message that speaks of a missing service does not make one. -/
example :
    ([12, 13, 99].map fun code =>
      (Resolver.resolve (.over (refusing code) .default none) "e:1" .plaintext).value?) =
    [some (.ok ⟨"e:1", .unimplemented⟩),
      some (.error (.rpc "e:1" ⟨.internal, "unimplemented"⟩)),
      some (.error (.rpc "e:1" ⟨.unknown, "unimplemented"⟩))] :=
  rfl

end Redirect
end RegionalDial
