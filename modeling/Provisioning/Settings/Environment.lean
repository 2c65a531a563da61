/-
This file reads settings from the environment.
-/

import Provisioning.Settings.Layers
import Provisioning.Text.Split

namespace Provisioning.Environment

/-- Two underscores stand for a dot. -/
def dotted : List Char → List Char
  | '_' :: '_' :: rest => '.' :: dotted rest
  | c :: rest => c :: dotted rest
  | [] => []

def isWordEnd (c : Char) : Bool := c == '-' || c == ' ' || c == '_'

/-- The words of a name are joined by single underscores. -/
def snakeCase (name : List Char) : String :=
  let words := Text.piecesOf '_' (name.map fun c => if isWordEnd c then '_' else c)
  Text.join "_" ((words.filter fun word => !word.isEmpty).map String.ofList)

/-- The setting that a variable gives, if the name of the program is in front of it. -/
def settingName? (variableName : String) : Option String :=
  match variableName.toList.map Char.toLower with
  | 'f' :: 'p' :: 'm' :: '_' :: '_' :: rest =>
      some (Text.join "." ((Text.piecesOf '.' (dotted rest)).map snakeCase))
  | _ => none

def entries (environment : List (String × String)) : Layers.Entries :=
  environment.filterMap fun entry =>
    (settingName? entry.1).map fun name => (name, Setting.text entry.2)

end Provisioning.Environment
