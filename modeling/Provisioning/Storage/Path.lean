/-
This file takes paths apart and joins them.
-/

import Provisioning.Text.Split

namespace Provisioning.Path

/-- A path from the root takes the place of what it is joined to. -/
def join (base path : String) : String :=
  if path.startsWith "/" then path
  else if base.isEmpty || base.endsWith "/" then base ++ path
  else s!"{base}/{path}"

/-- An empty name and a dot lead nowhere. -/
def isIdle (name : String) : Bool := name.isEmpty || name == "."

/-- The names on a path without idle ones at its end. -/
def names (path : String) : List String :=
  match Text.pieces '/' path with
  | [] => []
  | first :: rest => first :: (rest.reverse.dropWhile isIdle).reverse

/-- The last name, unless the path ends at a root or somewhere relative. -/
def fileName? (path : String) : Option String :=
  (names path).getLast?.filter fun name => !isIdle name && name != ".."

/-- The path without its last name; the empty path and the root have no parent. -/
def parent? (path : String) : Option String :=
  match names path with
  | [] => none
  | [""] => none
  | [_] => some ""
  | found =>
      match names (Text.join "/" found.dropLast) with
      | [""] => some "/"
      | kept => some (Text.join "/" kept)

/-- The path with another last name. -/
def sibling (path name : String) : String :=
  match fileName? path with
  | some _ => join ((parent? path).getD "") name
  | none => join path name

/-- The part of a file's name after the last dot that does not start it. -/
def extension? (path : String) : Option String :=
  (fileName? path).bind fun name =>
    match (Text.pieces '.' name).reverse with
    | last :: _ :: rest => if rest.isEmpty && name.startsWith "." then none else some last
    | _ => none

end Provisioning.Path
