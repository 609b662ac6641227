/-
# Why a redirection fails

A lookup that finds no assignment service is not a failure: the endpoint itself is dialed then.
Everything else that keeps a resolution from naming a host is one, and it names the endpoint it
was about.
-/
import RegionalDial.Dial.Error
import RegionalDial.Duration
import RegionalDial.Status

namespace RegionalDial
namespace Redirect

/-- Why a resolution, or the connection after it, failed: `RedirectError`. -/
inductive Error where
  /-- The endpoint answered and assigned no usable host. -/
  | noClusterTargets (endpoint : String)
  | dial (endpoint : String) (cause : Dial.Error)
  | rpc (endpoint : String) (status : Status)
  | timeout (endpoint : String) (limit : Duration)
deriving DecidableEq, Inhabited

namespace Error

/-- Did the endpoint answer without a usable host?  `RedirectError.is_no_cluster_targets`. -/
def isNoClusterTargets : Error → Bool
  | noClusterTargets _ => true
  | _ => false

/-- The endpoint the failed step was addressed to. -/
def endpoint : Error → String
  | noClusterTargets endpoint | dial endpoint _ | rpc endpoint _ | timeout endpoint _ => endpoint

def message (others : ForeignErrors) : Error → String
  | noClusterTargets endpoint => s!"no cluster targets returned by {endpoint}"
  | dial endpoint cause =>
    s!"unable to dial {endpoint} for regional redirection: {cause.message others}"
  | rpc endpoint status =>
    s!"unable to get assignment from {endpoint}: {(others.status status).message}"
  | timeout endpoint limit => s!"regional redirection via {endpoint} timed out after {limit.text}"

/-- The messages of what caused the error, nearest first. -/
def causes (others : ForeignErrors) : Error → List String
  | dial _ cause => cause.chain others
  | rpc _ status => (others.status status).chain
  | noClusterTargets _ | timeout _ _ => []

/-- The message, then the messages of what caused it. -/
def chain (others : ForeignErrors) (error : Error) : List String :=
  error.message others :: error.causes others

end Error

/-- How a lookup ends when it finds no clusters, `QueryError`. -/
inductive LookupError where
  /-- The endpoint has no assignment service. -/
  | unimplemented (endpoint : String)
  | failed (error : Error)
deriving DecidableEq, Inhabited

namespace LookupError

/-- What the status of a call to `endpoint` means, `QueryError.from_status`.  The code alone
decides. -/
def ofStatus (endpoint : String) (status : Status) : LookupError :=
  if status.code = .unimplemented then .unimplemented endpoint
  else .failed (.rpc endpoint status)

def message (others : ForeignErrors) : LookupError → String
  | unimplemented endpoint => s!"assignment service is not implemented at {endpoint}"
  | failed error => error.message others

/-- The message, then the messages of what caused it.  A failure adds no message of its own. -/
def chain (others : ForeignErrors) : LookupError → List String
  | error@(unimplemented _) => [error.message others]
  | failed error => error.chain others

end LookupError
end Redirect
end RegionalDial
