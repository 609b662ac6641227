/-
# What a command line says about its target

The flags that commands with a target share, and the options of a connection that they make.  A
token brings TLS with it, so the flag for plaintext counts only where no authentication is asked
for.  The client certificate and its key are looked at only when both are given.
-/
import RegionalDial.Auth.Load

namespace RegionalDial
namespace Command

/-- The target of a command, `TargetArgs`. -/
structure Target where
  server : String
  auth : Option Auth
  clientCert : Option Path
  clientKey : Option Path
  plaintext : Bool
  /-- Bounds the lookup, each connection and each call, in seconds. -/
  timeoutSeconds : Nat
deriving DecidableEq, Inhabited

/-- Why the options of a target cannot be had. -/
inductive TargetError where
  | auth (flag : Auth) (cause : Auth.Error)
  | clientCert (path : Path) (cause : File.Error)
  | clientKey (path : Path) (cause : File.Error)
deriving DecidableEq

namespace TargetError

def message : TargetError → String
  | auth flag _ => s!"configuring auth {flag.text}"
  | clientCert path _ => s!"reading client cert {path.display}"
  | clientKey path _ => s!"reading client key {path.display}"

/-- The message, then the messages of what caused it. -/
def chain (error : TargetError) : List String :=
  error.message :: match error with
    | auth _ cause => cause.chain .told
    | clientCert _ cause | clientKey _ cause => [cause.message]

end TargetError

namespace Target

/-- The limit, `TargetArgs.timeout`. -/
def timeout (target : Target) : Duration := Duration.ofSeconds target.timeoutSeconds

/-- The files that the flags name. -/
def paths (target : Target) : List Path :=
  (match target.auth with
    | none => []
    | some auth => auth.tokenFile :: auth.caFile.toList) ++
    target.clientCert.toList ++ target.clientKey.toList

/-- The options before a client certificate and limits are added. -/
def baseOptions (files : File.System) (target : Target) : Except TargetError Dial.Options :=
  match target.auth with
  | some auth =>
    match auth.configure files with
    | .ok options => .ok options
    | .error cause => .error (.auth auth cause)
  | none =>
    .ok (if target.plaintext then Dial.Options.plaintext else Dial.Options.plaintext.withNativeTls)

/-- The client certificate and its key, when both are given. -/
def identity (files : File.System) (target : Target) :
    Except TargetError (Option Dial.Identity) :=
  match target.clientCert, target.clientKey with
  | some certPath, some keyPath =>
    match files.read certPath with
    | .error cause => .error (.clientCert certPath cause)
    | .ok certificate =>
      match files.read keyPath with
      | .error cause => .error (.clientKey keyPath cause)
      | .ok key => .ok (some ⟨certificate, key⟩)
  | _, _ => .ok none

/-- The options of both the lookup and the connection, `TargetArgs.dial_options`. -/
def dialOptions (files : File.System) (target : Target) : Except TargetError Dial.Options :=
  match target.baseOptions files with
  | .error error => .error error
  | .ok options =>
    match target.identity files with
    | .error error => .error error
    | .ok identity =>
      let options := match identity with
        | some identity => options.withIdentity identity
        | none => options
      .ok ((options.withConnectTimeout target.timeout).withRequestTimeout target.timeout)

end Target
end Command
end RegionalDial
