/-
# Loading what a flag names

The token is what its file holds between blanks.  A bundle is taken when it is read without a
fault and holds a certificate.  The token is loaded first, so a fault in it hides one in the
bundle.
-/
import RegionalDial.Auth
import RegionalDial.Dial.Options
import RegionalDial.Text.Blank

namespace RegionalDial
namespace Auth

/-- The token a file's text holds, as `Auth.client_credentials` takes it. -/
def tokenOfText (text : String) : Except Error AccessToken :=
  let token := Text.Blank.trim text
  if token = "" then .error .emptyToken
  else
    match AccessToken.ofString token with
    | .ok token => .ok token
    | .error error => .error (.dial error)

/-- Loads the token, `Auth.client_credentials`. -/
def credentials (files : File.System) (auth : Auth) : Except Error AccessToken :=
  match files.readText auth.tokenFile with
  | .error cause => .error (.readToken cause)
  | .ok text => tokenOfText text

/-- Loads a bundle of certificates, `load_ca`. -/
def loadCa (files : File.System) (path : Path) : Except Error (List UInt8) :=
  match files.read path with
  | .error cause => .error (.readCa cause)
  | .ok bundle =>
    match Pem.certificates? bundle with
    | some (_ :: _) => .ok bundle
    | _ => .error (.invalidCa path)

/-- The TLS settings of `configure`: checked against the bundle, or against the host's
certificates. -/
def secured (files : File.System) (auth : Auth) : Except Error Dial.Options :=
  match auth.caFile with
  | none => .ok Dial.Options.plaintext.withNativeTls
  | some path =>
    match loadCa files path with
    | .ok bundle => .ok (Dial.Options.plaintext.withBundle bundle)
    | .error error => .error error

/-- The options that present the token over TLS, `Auth.configure`. -/
def configure (files : File.System) (auth : Auth) : Except Error Dial.Options :=
  match credentials files auth with
  | .error error => .error error
  | .ok token =>
    match secured files auth with
    | .error error => .error error
    | .ok options => .ok (options.withToken token)

end Auth
end RegionalDial
