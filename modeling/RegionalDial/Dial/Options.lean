/-
# Options of a connection

Everything a connection needs besides its target: the TLS settings, the token and the limits of
time.  The same options serve a lookup and the connection after it, so both present the same
identity.
-/
import RegionalDial.AccessToken
import RegionalDial.Certificate.Anchor
import RegionalDial.Certificate.PrivateKey
import RegionalDial.Dial.ServerName
import RegionalDial.Dial.Uri
import RegionalDial.Duration
import RegionalDial.Pem.Section

namespace RegionalDial
namespace Dial

/-! ## 1. TLS settings -/

/-- The certificates a server is checked against. -/
inductive Roots where
  | none
  /-- Those of the host. -/
  | native
  /-- Those of a bundle. -/
  | bundle (pem : List UInt8)
deriving DecidableEq, Inhabited

namespace Roots

/-- Can a server be checked against them?  Every certificate of a bundle has to be an anchor. -/
def areUsable : Roots → Bool
  | .none | .native => true
  | .bundle pem =>
    (Pem.certificates? pem).any fun certificates => certificates.all Certificate.isAnchor

end Roots

/-- A client certificate and its private key, as bundles. -/
structure Identity where
  certificate : List UInt8
  key : List UInt8
deriving DecidableEq, Inhabited

namespace Identity

/-- There is a certificate to present, the first one, and its private key. -/
def isUsable (identity : Identity) : Bool :=
  match Pem.certificates? identity.certificate, Pem.privateKey? identity.key with
  | some (certificate :: _), some key =>
    (Certificate.presentedKey? certificate).any fun publicKey =>
      Certificate.PrivateKey.belongsTo publicKey key
  | _, _ => false

end Identity

/-- How a connection is secured. -/
structure Tls where
  roots : Roots
  identity : Option Identity
deriving DecidableEq, Inhabited

namespace Tls

/-- No roots and no identity. -/
def plain : Tls := ⟨.none, none⟩

/-- Do the settings fit a connection to this address? -/
def fits (tls : Tls) (uri : Uri) : Bool :=
  tls.roots.areUsable && tls.identity.all Identity.isUsable &&
    uri.origin.any fun origin => ServerName.isValid origin.host

end Tls

/-! ## 2. Options -/

/-- The options of a connection, `DialOptions`. -/
structure Options where
  tls : Option Tls
  token : Option AccessToken
  /-- Bounds the time until the connection stands. -/
  connectTimeout : Option Duration
  /-- Bounds the time of every call on it. -/
  requestTimeout : Option Duration
deriving DecidableEq

namespace Options

/-- Neither TLS nor a token nor limits, `DialOptions.new`. -/
def plaintext : Options := ⟨none, none, none, none⟩

instance : Inhabited Options := ⟨plaintext⟩

/-- The settings in the place of all others, `DialOptions.with_tls`. -/
def withTls (options : Options) (tls : Tls) : Options := { options with tls := some tls }

/-- TLS, checked against the certificates of the host: `DialOptions.with_native_tls`. -/
def withNativeTls (options : Options) : Options := options.withTls ⟨.native, none⟩

/-- TLS, checked against the certificates of a bundle. -/
def withBundle (options : Options) (pem : List UInt8) : Options :=
  options.withTls ⟨.bundle pem, none⟩

/-- A client certificate, `DialOptions.with_client_identity`.  It keeps the other TLS settings and
brings TLS where there was none. -/
def withIdentity (options : Options) (identity : Identity) : Options :=
  options.withTls { options.tls.getD Tls.plain with identity := some identity }

/-- A token for every call, `DialOptions.with_access_token`. -/
def withToken (options : Options) (token : AccessToken) : Options :=
  { options with token := some token }

/-- A limit for connecting, `DialOptions.with_connect_timeout`. -/
def withConnectTimeout (options : Options) (limit : Duration) : Options :=
  { options with connectTimeout := some limit }

/-- A limit for every call, `DialOptions.with_request_timeout`. -/
def withRequestTimeout (options : Options) (limit : Duration) : Options :=
  { options with requestTimeout := some limit }

/-- Is TLS configured?  `DialOptions.is_tls`. -/
def usesTls (options : Options) : Bool := options.tls.isSome

/-- What puts the token into the headers, `DialOptions.interceptor`. -/
def interceptor (options : Options) : Interceptor := ⟨options.token⟩

/-- The address that a target means under these options, `DialOptions.endpoint`. -/
def endpoint (options : Options) (target : String) : Except Error Uri :=
  match Uri.ofTarget? options.usesTls target with
  | none => .error (.invalidEndpoint target)
  | some uri =>
    if options.tls.all fun tls => tls.fits uri then .ok uri else .error (.tls target)

/-- An optional part of a description. -/
def described (part : Option String) : String :=
  match part with
  | none => "None"
  | some text => s!"Some({text})"

/-- The options in one line, `DialOptions.fmt`.  Of the token it tells what its own description
does. -/
def description (options : Options) : String :=
  let token := described (options.token.map AccessToken.description)
  let connect := described (options.connectTimeout.map Duration.text)
  let request := described (options.requestTimeout.map Duration.text)
  "DialOptions \x7b tls: " ++ (if options.usesTls then "true" else "false") ++
    s!", token: {token}, connect_timeout: {connect}, request_timeout: {request} " ++ "\x7d"

end Options
end Dial
end RegionalDial
