/-
# Which host to dial

One pass, without retries and without memory:

    redirection is off ------------------------------> the endpoint itself
    the lookup finds no service ---------------------> the endpoint itself
    the lookup fails or takes too long --------------> an error
    the lookup finds clusters, no usable home host --> an error
    the lookup finds clusters -----------------------> the first host of the home cluster
-/
import RegionalDial.Redirect.Lookup
import RegionalDial.Toggle

namespace RegionalDial
namespace Redirect

/-! ## 1. Resolutions -/

/-- Why an endpoint was chosen. -/
inductive Reason where
  | disabled
  | unimplemented
  | redirected
deriving DecidableEq, Inhabited

namespace Reason

/-- The words for a reason, `Reason.fmt`. -/
def text : Reason → String
  | disabled => "redirection disabled"
  | unimplemented => "redirection not supported by server"
  | redirected => "redirected"

end Reason

/-- The endpoint chosen for a connection. -/
structure Resolution where
  endpoint : String
  reason : Reason
deriving DecidableEq, Inhabited

namespace Resolution

/-- Does the endpoint come from an assignment?  `Resolution.is_redirected`. -/
def isRedirected (resolution : Resolution) : Bool := resolution.reason = .redirected

end Resolution

/-- What the clusters of a lookup mean for the endpoint it asked. -/
def Resolution.ofClusters (endpoint : String) (clusters : ClusterSet) :
    Except Error Resolution :=
  match clusters.target? with
  | some host => .ok ⟨host, .redirected⟩
  | none => .error (.noClusterTargets endpoint)

/-- What the end of a lookup means for the endpoint it asked. -/
def Resolution.ofAnswer (endpoint : String) (answer : Except LookupError ClusterSet) :
    Except Error Resolution :=
  match answer with
  | .ok clusters => ofClusters endpoint clusters
  | .error (.unimplemented _) => .ok ⟨endpoint, .unimplemented⟩
  | .error (.failed error) => .error error

/-! ## 2. Resolving -/

/-- What a resolver does: it starts a lookup, and what the lookup does is part of the run. -/
inductive Effect (ε : Type) where
  | lookup (endpoint : String) (options : Dial.Options)
  | inLookup (effect : ε)
deriving DecidableEq

/-- Asks a source of assignments.  There is no other way to start a lookup. -/
def Lookup.ask {ε : Type} (lookup : Lookup ε) (endpoint : String) (options : Dial.Options) :
    Run (Effect ε) (Except LookupError ClusterSet) :=
  .effect (.lookup endpoint options) ((lookup endpoint options).mapEffects Effect.inLookup)

/-- How endpoints are resolved, `RedirectionResolver`. -/
structure Resolver (ε : Type) where
  lookup : Lookup ε
  toggle : Toggle
  /-- Bounds the lookup.  A lookup that takes longer is an error, not a missing service. -/
  timeout : Option Duration
  /-- How long after a tick of the clock a lookup starts.  The resolver has no say in this. -/
  sinceTick : String → Dial.Options → Duration := fun _ _ => ⟨0⟩

namespace Resolver

variable {ε : Type}

/-- Chooses the host to dial for an endpoint, `RedirectionResolver.resolve`.  The lookup is made
under the options of the connection that follows. -/
def resolve (resolver : Resolver ε) (endpoint : String) (options : Dial.Options) :
    Run (Effect ε) (Except Error Resolution) :=
  if resolver.toggle.isEnabled then
    let run := resolver.lookup.ask endpoint options
    match resolver.timeout with
    | none => run.map (Resolution.ofAnswer endpoint)
    | some limit =>
      (run.within limit (resolver.sinceTick endpoint options)).map fun answer =>
        match answer with
        | some answer => Resolution.ofAnswer endpoint answer
        | none => .error (.timeout endpoint limit)
  else .done (.ok ⟨endpoint, .disabled⟩)

end Resolver

/-- The resolver that looks assignments up over a network, `RedirectionResolver.new`, with a limit
if there is one. -/
def Resolver.over (network : Dial.Network) (toggle : Toggle) (timeout : Option Duration) :
    Resolver Dial.Effect :=
  ⟨Lookup.over network, toggle, timeout, Lookup.sinceTickOver network⟩

end Redirect
end RegionalDial
