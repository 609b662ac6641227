/-
# Authentication flags

A flag names a scheme and its parameters, separated by commas.  There is one scheme: a token, read
from a file, and perhaps a bundle of certificates to check the server against.  A path in a flag
holds no comma, and an empty bundle path counts as none.
-/
import RegionalDial.Dial.Error
import RegionalDial.File.Tree

namespace RegionalDial

/-- Authentication by a token. -/
structure Auth where
  tokenFile : Path
  /-- The bundle of certificates; without one, those of the host are used. -/
  caFile : Option Path
deriving DecidableEq, Inhabited

namespace Auth

/-! ## 1. Errors -/

/-- Why a flag cannot be read or what it names cannot be used, `AuthError`. -/
inductive Error where
  | unknownScheme (scheme : String)
  | wrongParameterCount
  | missingTokenFile
  | readToken (cause : File.Error)
  | emptyToken
  | readCa (cause : File.Error)
  | invalidCa (path : Path)
  | dial (error : Dial.Error)
deriving DecidableEq, Inhabited

namespace Error

def message (others : ForeignErrors) : Error → String
  | unknownScheme scheme => s!"unknown authentication scheme: {scheme}"
  | wrongParameterCount => "wrong number of parameters for token authentication"
  | missingTokenFile => "tokenFile is required"
  | readToken cause => s!"failed to read token file: {(others.file cause).message}"
  | emptyToken => "token cannot be empty"
  | readCa cause => s!"failed to read ca file: {(others.file cause).message}"
  | invalidCa path => s!"failed to add ca file to pool: {path.display}"
  | dial error => error.message others

/-- The message, then the messages of what caused it.  A dial error adds no message of its own. -/
def chain (others : ForeignErrors) : Error → List String
  | dial error => error.chain others
  | error@(readToken cause) | error@(readCa cause) =>
    error.message others :: (others.file cause).chain
  | error => [error.message others]

end Error

/-! ## 2. Flags -/

/-- The scheme of every flag, `Auth.scheme`. -/
def scheme : String := "token"

/-- Authentication by the token in a file, `Auth.token`.  The file has to be named; an empty path of
a bundle is none. -/
def token (tokenFile : Path) (caFile : Option Path) : Except Error Auth :=
  if tokenFile.isEmpty then .error .missingTokenFile
  else .ok ⟨tokenFile, caFile.filter fun path => !path.isEmpty⟩

/-- Reads a flag, `Auth.from_str`. -/
def parse (flag : String) : Except Error Auth :=
  let path (part : List Char) : Path := Path.ofString (String.ofList part)
  match Text.splitOn ',' flag.toList with
  | [] => .error (.unknownScheme "")
  | first :: parameters =>
    if String.ofList first = scheme then
      match parameters with
      | [tokenFile] => token (path tokenFile) none
      | [tokenFile, caFile] => token (path tokenFile) (some (path caFile))
      | _ => .error .wrongParameterCount
    else .error (.unknownScheme (String.ofList first))

/-- The flag for a value, `Auth.fmt`. -/
def text (auth : Auth) : String :=
  let ca := match auth.caFile with
    | none => ""
    | some path => "," ++ path.display
  scheme ++ "," ++ auth.tokenFile.display ++ ca

/-- Do the two name the same files?  `Auth.eq`, part by part of each path. -/
def same (a b : Auth) : Bool :=
  a.tokenFile.same b.tokenFile &&
    match a.caFile, b.caFile with
    | none, none => true
    | some a, some b => a.same b
    | _, _ => false

end Auth
end RegionalDial
