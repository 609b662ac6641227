/-
# Reports of a resolution

What is shown of a resolution: the server that was asked for, the endpoint that was chosen and
why, and the setting of the toggle.  A report is a line of text or a JSON object.
-/
import RegionalDial.Redirect.Resolver

namespace RegionalDial

/-- What is shown of a resolution. -/
structure Report where
  server : String
  endpoint : String
  redirected : Bool
  reason : String
  toggle : String
deriving DecidableEq, Inhabited

namespace Report

/-- The report of a resolution, `Report.new`. -/
def ofResolution (server : String) (resolution : Redirect.Resolution) (toggle : Toggle) : Report :=
  ⟨server, resolution.endpoint, resolution.isRedirected, resolution.reason.text, toggle.text⟩

/-! ## 1. A line of text -/

/-- The report in one line. -/
def toLine (report : Report) : String :=
  s!"{report.server} -> {report.endpoint} ({report.reason})"

/-! ## 2. A JSON object -/

/-- A hexadecimal digit in lower case. -/
def hexDigit (n : Nat) : Char :=
  if n < 10 then Char.ofNat ('0'.toNat + n) else Char.ofNat ('a'.toNat + (n - 10))

/-- How a character is written in a JSON text. -/
def escape (c : Char) : List Char :=
  if c = '"' then ['\\', '"']
  else if c = '\\' then ['\\', '\\']
  else if c = '\x08' then ['\\', 'b']
  else if c = '\x0c' then ['\\', 'f']
  else if c = '\n' then ['\\', 'n']
  else if c = '\r' then ['\\', 'r']
  else if c = '\t' then ['\\', 't']
  else if c.toNat < 0x20 then
    ['\\', 'u', '0', '0', hexDigit (c.toNat / 16), hexDigit (c.toNat % 16)]
  else [c]

/-- A text in JSON. -/
def jsonText (s : String) : List Char := '"' :: s.toList.flatMap escape ++ ['"']

/-- A truth value in JSON. -/
def jsonBool (b : Bool) : List Char := if b then "true".toList else "false".toList

/-- The members of the object, in order, each with its value in JSON. -/
def members (report : Report) : List (String × List Char) :=
  [("server", jsonText report.server), ("endpoint", jsonText report.endpoint),
    ("redirected", jsonBool report.redirected), ("reason", jsonText report.reason),
    ("toggle", jsonText report.toggle)]

/-- Members on lines of their own, with commas between them. -/
def writeMembers : List (String × List Char) → List Char
  | [] => []
  | [(key, value)] => "  ".toList ++ jsonText key ++ [':', ' '] ++ value ++ ['\n']
  | (key, value) :: rest =>
    "  ".toList ++ jsonText key ++ [':', ' '] ++ value ++ [',', '\n'] ++ writeMembers rest

/-- The report as a JSON object. -/
def toJson (report : Report) : String :=
  String.ofList (['\x7b', '\n'] ++ writeMembers report.members ++ ['\x7d'])

/-! ## 3. Formats -/

/-- The report in a format, `Report.render`: `json` is a JSON object and any other word the line. -/
def render (report : Report) (format : String) : String :=
  if format = "json" then report.toJson else report.toLine

end Report
end RegionalDial
