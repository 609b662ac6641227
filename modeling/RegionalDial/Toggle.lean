/-
# The redirection toggle

Redirection is on unless it is turned off.  The setting comes from one environment variable, whose
value may be any bytes: only the five letters of `false` turn redirection off, an empty value
counts as no value, and everything else turns it on.
-/
import RegionalDial.Text.Utf8

namespace RegionalDial

/-- Whether a lookup should be tried before dialing, `RedirectToggle`. -/
inductive Toggle where
  /-- Nothing is set: a lookup is tried. -/
  | default
  | enabled
  | disabled
deriving DecidableEq, Inhabited

namespace Toggle

/-- The environment variable that holds the setting, `REDIRECT_ENV`. -/
def variableName : String := "CLOUDVISION_REGIONAL_REDIRECT"

/-- The setting a text stands for, `RedirectToggle.parse`. -/
def parse (value : String) : Toggle :=
  if value = "" then .default
  else if value = "false" then .disabled
  else .enabled

/-- The setting for the bytes of the variable, `none` when it is unset: `RedirectToggle.from_os`.
Bytes that are no text cannot be the word that turns redirection off. -/
def ofBytes : Option (List UInt8) → Toggle
  | none => .default
  | some bytes =>
    match Text.Utf8.decode? bytes with
    | some value => parse value
    | none => .enabled

/-- Is a lookup tried?  `RedirectToggle.is_enabled`. -/
def isEnabled : Toggle → Bool
  | disabled => false
  | _ => true

/-- The word shown for the setting, `RedirectToggle.fmt`. -/
def text : Toggle → String
  | default => "default"
  | enabled => "enabled"
  | disabled => "disabled"

theorem parse_eq_disabled_iff {value : String} : parse value = .disabled ↔ value = "false" := by
  unfold parse
  split
  · rename_i h; subst h; decide
  · split <;> simp_all

end Toggle
end RegionalDial
