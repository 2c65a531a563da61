/-
This file defines TOML values.
-/

namespace Provisioning

/-- A table lists its entries in their order, each key once. -/
inductive Toml where
  | string (text : String)
  | integer (value : Int)
  /-- A float is kept as it is written, without underscores. -/
  | float (literal : String)
  | bool (value : Bool)
  /-- A date, a time or both, in the normal form of the text. -/
  | datetime (text : String)
  | array (elements : List Toml)
  | table (entries : List (String × Toml))

end Provisioning
