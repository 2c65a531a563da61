/-
This file decodes the bytes of files.
-/

namespace Provisioning

/-- What a file holds, as a text. -/
structure Contents where
  /-- Bytes that are not well-formed have a mark in their place. -/
  text : String
  isIntact : Bool := true
deriving DecidableEq, Repr

namespace Contents

/-- The mark stands for bytes that could not be decoded. -/
def mark : Char := '\ufffd'

/-- The part of a character's number that a first byte holds, and the ranges of the bytes after it.
Longer forms than needed, surrogates and numbers beyond Unicode have no first byte or a narrower
range. -/
def first? (byte : Nat) : Option (Nat × List (Nat × Nat)) :=
  let follower := (0x80, 0xBF)
  if byte < 0x80 then some (byte, [])
  else if byte < 0xC2 then none
  else if byte < 0xE0 then some (byte - 0xC0, [follower])
  else if byte == 0xE0 then some (0, [(0xA0, 0xBF), follower])
  else if byte == 0xED then some (0xD, [(0x80, 0x9F), follower])
  else if byte < 0xF0 then some (byte - 0xE0, [follower, follower])
  else if byte == 0xF0 then some (0, [(0x90, 0xBF), follower, follower])
  else if byte < 0xF4 then some (byte - 0xF0, [follower, follower, follower])
  else if byte == 0xF4 then some (4, [(0x80, 0x8F), follower, follower])
  else none

/-- The number of a character, if bytes in all the ranges follow, and the bytes after the last one
that fits. -/
def readFollowers (number : Nat) : List (Nat × Nat) → List Nat → Option Nat × List Nat
  | [], bytes => (some number, bytes)
  | _ :: _, [] => (none, [])
  | range :: ranges, byte :: bytes =>
      if range.1 ≤ byte && byte ≤ range.2 then
        readFollowers (64 * number + (byte - 0x80)) ranges bytes
      else
        (none, byte :: bytes)

theorem length_readFollowers_le (number : Nat) (ranges : List (Nat × Nat)) (bytes : List Nat) :
    (readFollowers number ranges bytes).2.length ≤ bytes.length := by
  fun_induction readFollowers number ranges bytes with
  | case1 => exact Nat.le_refl _
  | case2 => exact Nat.le_refl _
  | case3 _ _ _ _ _ _ inductionHypothesis => exact Nat.le_succ_of_le inductionHypothesis
  | case4 => exact Nat.le_refl _

/-- Each longest ill-formed sequence that could have gone on has one mark. -/
def decode : List Nat → List (Option Char)
  | [] => []
  | byte :: bytes =>
      match first? byte with
      | none => none :: decode bytes
      | some (number, ranges) =>
          let read := readFollowers number ranges bytes
          have := length_readFollowers_le number ranges bytes
          read.1.map Char.ofNat :: decode read.2
termination_by bytes => bytes.length
decreasing_by
  · simp
  · simp only [List.length_cons]
    omega

def ofText (text : String) : Contents := ⟨text, true⟩

def ofBytes (bytes : List Nat) : Contents :=
  let decoded := decode bytes
  ⟨String.ofList (decoded.map fun c => c.getD mark), decoded.all Option.isSome⟩

end Contents

end Provisioning
