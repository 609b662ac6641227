/-
# Access tokens

A token is sent with every call, in one header.  What would break a header, a control character
other than a tab or the byte 0x7F, is refused when the token is made.  Its text never shows: the
value is marked as sensitive, and all tokens are described alike.
-/
import RegionalDial.Dial.Error
import RegionalDial.Metadata

namespace RegionalDial

namespace AccessToken

/-- The key of the header that carries a token, `AUTH_HEADER`. -/
def headerKey : String := "authorization"

/-- The bytes a header may hold. -/
def isHeaderByte (byte : UInt8) : Bool := (0x20 ≤ byte && byte ≠ 0x7F) || byte = 0x09

/-- Can the text stand in a header? -/
def isAcceptable (token : String) : Bool := (Text.Utf8.encode token).all isHeaderByte

end AccessToken

/-- A token that can stand in a header. -/
structure AccessToken where
  token : String
  acceptable : AccessToken.isAcceptable token = true
deriving DecidableEq

namespace AccessToken

/-- The token with this text, `AccessToken.new`. -/
def ofString (token : String) : Except Dial.Error AccessToken :=
  if h : isAcceptable token = true then .ok ⟨token, h⟩ else .error .invalidToken

/-- The value of the header, which `AccessToken.request_metadata` gives under the key. -/
def headerValue (token : AccessToken) : HeaderValue := .ofString ("Bearer " ++ token.token) true

/-- The description, `AccessToken.fmt`, in which nothing of the token is told. -/
def description (_token : AccessToken) : String := "AccessToken(<redacted>)"

/-- All tokens are described in the same words. -/
theorem description_eq (a b : AccessToken) : a.description = b.description := rfl

end AccessToken

/-- Puts the token, if there is one, into the headers of every call: `AuthInterceptor`. -/
structure Interceptor where
  token : Option AccessToken
deriving DecidableEq

namespace Interceptor

def hasToken (interceptor : Interceptor) : Bool := interceptor.token.isSome

/-- The headers with the token in the place of any other, `AuthInterceptor.call`. -/
def apply (interceptor : Interceptor) (metadata : Metadata) : Metadata :=
  match interceptor.token with
  | none => metadata
  | some token => metadata.insert AccessToken.headerKey token.headerValue

/-- The description, which tells of the token what its own description does. -/
def description (interceptor : Interceptor) : String :=
  let token := match interceptor.token.map AccessToken.description with
    | none => "None"
    | some text => s!"Some({text})"
  "AuthInterceptor \x7b token: " ++ token ++ " \x7d"

end Interceptor
end RegionalDial
