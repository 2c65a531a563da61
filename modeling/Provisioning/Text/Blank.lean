/-
This file decides which characters are blank and removes them from the ends of a text.
-/

namespace Provisioning.Text

/-- The blank characters are those with the Unicode property `White_Space`. -/
def isBlank (c : Char) : Bool :=
  let code := c.toNat
  (0x9 ≤ code && code ≤ 0xD) || code == 0x20 || code == 0x85 || code == 0xA0 || code == 0x1680 ||
    (0x2000 ≤ code && code ≤ 0x200A) || code == 0x2028 || code == 0x2029 || code == 0x202F ||
    code == 0x205F || code == 0x3000

/-- Only the ends lose their blanks. -/
def trimChars (text : List Char) : List Char :=
  ((text.dropWhile isBlank).reverse.dropWhile isBlank).reverse

def trim (text : String) : String :=
  String.ofList (trimChars text.toList)

/-- A text is blank when it holds nothing but blank characters. -/
def blank (text : String) : Bool :=
  text.toList.all isBlank

theorem dropWhile_eq_nil_iff (text : List Char) :
    text.dropWhile isBlank = [] ↔ text.all isBlank = true := by
  induction text with
  | nil => simp
  | cons c rest inductionHypothesis =>
      rw [List.dropWhile_cons, List.all_cons]
      split
      · next isWhite => rw [inductionHypothesis, isWhite, Bool.true_and]
      · next notWhite => simp [notWhite]

/-- Trimming leaves nothing exactly of a blank text. -/
theorem trimChars_eq_nil_iff (text : List Char) :
    trimChars text = [] ↔ text.all isBlank = true := by
  rw [trimChars, List.reverse_eq_nil_iff, dropWhile_eq_nil_iff, List.all_reverse]
  constructor
  · intro rest
    rw [← List.takeWhile_append_dropWhile (p := isBlank) (l := text), List.all_append, rest]
    simp
  · intro all
    rw [(dropWhile_eq_nil_iff text).2 all]
    rfl

end Provisioning.Text
