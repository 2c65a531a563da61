/-
This file takes settings for texts, flags, counts and names.
-/

import Provisioning.Logging.Settings
import Provisioning.Settings.Value

namespace Provisioning.Setting

def lowercase (text : String) : String := String.ofList (text.toList.map Char.toLower)

/-- Any single value has a text. -/
def asText : Setting → Manifest.Read String
  | .text content => .ok content
  | .flag value => .ok (if value then "true" else "false")
  | .integer value => .ok (toString value)
  | .float value => .ok value.text
  | _ => .error .form

/-- Nothing stands for no text. -/
def asOptionalText : Setting → Manifest.Read (Option String)
  | .nothing => .ok none
  | value => some <$> asText value

def isYes (text : String) : Bool := ["true", "on", "yes"].contains (lowercase text)

def isNo (text : String) : Bool := ["false", "off", "no"].contains (lowercase text)

/-- A number is true unless it is zero. -/
def asFlag : Setting → Manifest.Read Bool
  | .flag value => .ok value
  | .integer value => .ok (value != 0)
  | .float value => .ok !value.isZero
  | .text content =>
      if isYes content || content == "1" then .ok true
      else if isNo content || content == "0" then .ok false
      else .error .form
  | _ => .error .form

def largestCount : Nat := UInt64.size - 1

/-- True counts as one, and floats are rounded. -/
def asCount : Setting → Manifest.Read Nat
  | .flag value => .ok (if value then 1 else 0)
  | .integer value =>
      if 0 ≤ value && value ≤ largestCount then .ok value.toNat else .error .form
  | .float value => .ok (value.count largestCount)
  | .text content =>
      if isYes content then .ok 1
      else if isNo content then .ok 0
      else
        match Text.word? content.toList with
        | some count => .ok count
        | none => .error .form
  | _ => .error .form

/-- A name may be the only key of a table. -/
def asName : Setting → Manifest.Read String
  | .text name => .ok name
  | .table [(name, _)] => .ok name
  | _ => .error .form

def parts : Setting → Manifest.Parts Setting
  | .table entries => .named entries
  | .list elements => .placed elements
  | _ => .none

/-- Values from the environment are texts, so every value is taken for what is needed. -/
def coercion : Logging.Coercion Setting where
  parts := parts
  text := asText
  optionalText := asOptionalText
  flag := asFlag
  count := asCount
  name := asName

end Provisioning.Setting
