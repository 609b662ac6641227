/-
# Looking up an assignment

A lookup asks an endpoint which clusters serve the caller.  Over a network it opens a connection
of its own, sends one question without a key (the endpoint knows the caller by its token) and
reads the clusters off the answer.
-/
import RegionalDial.Dial.Network
import RegionalDial.Redirect.Error

namespace RegionalDial
namespace Redirect

/-- A source of assignments, `AssignmentQuery`: what asking an endpoint under some options does and
brings. -/
abbrev Lookup (ε : Type) : Type :=
  String → Dial.Options → Run ε (Except LookupError ClusterSet)

/-- The lookup over a network, `GrpcAssignmentQuery.query`. -/
def Lookup.over (network : Dial.Network) : Lookup Dial.Effect := fun endpoint options =>
  (network.dial endpoint options).bind fun dialed =>
    match dialed with
    | .error error => .done (.error (.failed (.dial endpoint error)))
    | .ok channel =>
      (network.getOne channel options.interceptor ⟨none⟩).map fun answer =>
        match answer with
        | .error status => .error (LookupError.ofStatus endpoint status)
        | .ok response => .ok (ClusterSet.ofAssignment response.value)

/-- A lookup over a network dials at once, so it starts when the dial takes place. -/
def Lookup.sinceTickOver (network : Dial.Network) (endpoint : String) (options : Dial.Options) :
    Duration :=
  network.sinceTick (.dial endpoint options)

end Redirect
end RegionalDial
