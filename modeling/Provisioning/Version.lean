/-
This file orders the versions of feature-packs.
-/

import Provisioning.Text.Digits
import Provisioning.Text.Split

namespace Provisioning.Version

/-- Dots and hyphens divide a version into segments. -/
def segments (version : String) : List (List Char) :=
  Text.piecesOf '.' (version.toList.map fun c => if c == '-' then '.' else c)

/-- Two numbers of 64 bits are compared as such, and anything else by characters. -/
def compareSegments (first second : List Char) : Ordering :=
  match Text.word? first, Text.word? second with
  | some first, some second => compare first second
  | _, _ => compare (String.ofList first) (String.ofList second)

/-- The first difference decides, and a version comes before any longer one it starts. -/
def compareAll : List (List Char) → List (List Char) → Ordering
  | [], [] => .eq
  | [], _ :: _ => .lt
  | _ :: _, [] => .gt
  | first :: rest, second :: others => (compareSegments first second).then (compareAll rest others)

def order (first second : String) : Ordering := compareAll (segments first) (segments second)

variable {Element : Type}

/-- An element moves past the elements at the end that come after it; the list is reversed. -/
def place (comesBefore : Element → Element → Bool) (element : Element) :
    List Element → List Element
  | [] => [element]
  | last :: earlier =>
      if comesBefore element last then last :: place comesBefore element earlier
      else element :: last :: earlier

/-- Elements are placed in turn, so equal ones keep their order. -/
def sort (version : Element → String) (elements : List Element) : List Element :=
  let comesBefore := fun first second => order (version first) (version second) == .lt
  (elements.foldl (fun placed element => place comesBefore element placed) []).reverse

theorem place_perm (comesBefore : Element → Element → Bool) (element : Element)
    (placed : List Element) : (place comesBefore element placed).Perm (element :: placed) := by
  induction placed with
  | nil => exact .refl _
  | cons last earlier inductionHypothesis =>
      unfold place
      split
      · exact (inductionHypothesis.cons last).trans (.swap element last earlier)
      · exact .refl _

theorem foldl_place_perm (comesBefore : Element → Element → Bool)
    (placed elements : List Element) :
    (elements.foldl (fun placed element => place comesBefore element placed) placed).Perm
      (elements ++ placed) := by
  induction elements generalizing placed with
  | nil => exact .refl _
  | cons element rest inductionHypothesis =>
      refine (inductionHypothesis _).trans ?_
      exact ((place_perm comesBefore element placed).append_left rest).trans List.perm_middle

/-- Sorting neither loses nor repeats an element. -/
theorem sort_perm (version : Element → String) (elements : List Element) :
    (sort version elements).Perm elements := by
  refine (List.reverse_perm _).trans ?_
  simpa using foldl_place_perm (fun first second => order (version first) (version second) == .lt)
    [] elements

end Provisioning.Version
