/-
This file reads settings in the formats of their files.
-/

import Provisioning.Ini.Reader
import Provisioning.Json.Decoder
import Provisioning.Json5.Reader
import Provisioning.Ron.Reader
import Provisioning.Settings.Layers
import Provisioning.Storage.Path
import Provisioning.Toml.Reader
import Provisioning.Yaml.Reader

namespace Provisioning

namespace Setting

/-- The name that a YAML value is as a key. -/
def keyOfYaml? : Yaml → Option String
  | .bool value => some (if value then "true" else "false")
  | .integer value => some (toString value)
  | .real literal => some literal
  | .string content => some content
  | _ => none

mutual

/-- The setting that a YAML value gives. Infinities and what is no number have no settings, and of
pairs with keys of one name the last one counts. -/
def ofYaml? : Yaml → Option Setting
  | .null => some nothing
  | .bool value => some (flag value)
  | .integer value => some (integer value)
  | .real literal => (Double.ofText? literal).map float
  | .string content => some (text content)
  | .list elements => (ofYamlElements? elements).map list
  | .mapping pairs => (ofYamlPairs? [] pairs).map table

def ofYamlElements? : List Yaml → Option (List Setting)
  | [] => some []
  | element :: rest => do return (← ofYaml? element) :: (← ofYamlElements? rest)

def ofYamlPairs? (entries : List (String × Setting)) :
    List (Yaml × Yaml) → Option (List (String × Setting))
  | [] => some entries
  | (key, value) :: rest => do
      ofYamlPairs? (OrderedMap.put (← keyOfYaml? key) (← ofYaml? value) entries) rest

end

/-- Keys of a section are put into its table, and a later section of a name replaces an earlier one.
-/
def putItems (section? : Option String) (inner outer : List (String × Setting)) :
    List Ini.Item → List (String × Setting)
  | [] => close section? inner outer
  | .header name :: rest => putItems (some name) [] (close section? inner outer) rest
  | .assignment key value :: rest =>
      match section? with
      | some _ => putItems section? (OrderedMap.put key (text value) inner) outer rest
      | none => putItems none inner (OrderedMap.put key (text value) outer) rest
where
  close (section? : Option String) (inner outer : List (String × Setting)) :
      List (String × Setting) :=
    match section? with
    | some name => OrderedMap.put name (table inner) outer
    | none => outer

def ofIni (items : List Ini.Item) : Setting := table (putItems none [] [] items)

end Setting

inductive SettingsFormat where
  | toml
  | json
  | yaml
  | ini
  | ron
  | json5
deriving DecidableEq, Repr

namespace SettingsFormat

/-- Files of an earlier format are preferred. -/
def all : List SettingsFormat := [toml, json, yaml, ini, ron, json5]

/-- The endings of the names of files in a format. -/
def extensions : SettingsFormat → List String
  | toml => ["toml"]
  | json => ["json"]
  | yaml => ["yaml", "yml"]
  | ini => ["ini"]
  | ron => ["ron"]
  | json5 => ["json5"]

def ofExtension? (extension : String) : Option SettingsFormat :=
  all.find? fun format => format.extensions.contains extension

/-- Nested too deeply, JSON values are refused. -/
def ofJsonText? (text : String) : Option Setting :=
  match Json.parse? text with
  | some value => if value.depth ≤ Json.deepest then Setting.ofJson? value else none
  | none => none

def value? : SettingsFormat → String → Option Setting
  | toml, text => (Toml.parse? text).bind Setting.ofToml?
  | json, text => ofJsonText? text
  | yaml, text => (Yaml.parse? text).bind Setting.ofYaml?
  | ini, text => (Ini.parse? text).map Setting.ofIni
  | ron, text => Ron.parse? text
  | json5, text => (Json5.parse? text).bind Setting.ofJson?

/-- The settings in a text, which have to have names. -/
def entries? (format : SettingsFormat) (text : String) : Option Layers.Entries :=
  match format.value? text with
  | some (.table entries) => some entries
  | _ => none

end SettingsFormat

end Provisioning
