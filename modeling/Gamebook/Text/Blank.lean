import Gamebook.Text.Ranges

/-!
# Blank characters

The characters with the property White_Space, the removal of such characters from both ends
of a text, and texts that hold nothing else.

* `trim` and `isBlankText` are the removal and the test.
-/

namespace Gamebook.Text

/-- The ranges of White_Space. -/
def blankRanges : Ranges :=
  [(0x9, 0xD), (0x20, 0x20), (0x85, 0x85), (0xA0, 0xA0), (0x1680, 0x1680), (0x2000, 0x200A),
    (0x2028, 0x2029), (0x202F, 0x202F), (0x205F, 0x205F), (0x3000, 0x3000)]

/-- Whether a character has the property White_Space. -/
def isBlank (c : Char) : Bool := blankRanges.has c.toNat

/-- Removes the characters that are `isBlank` at both ends. -/
def trim (cs : List Char) : List Char :=
  ((cs.dropWhile isBlank).reverse.dropWhile isBlank).reverse

/-- Whether all characters of a text are `isBlank`. -/
def isBlankText (s : String) : Bool := s.toList.all isBlank

/-- `List.dropWhile` leaves nothing exactly when all characters are dropped. -/
theorem dropWhile_eq_nil_iff_all {p : Char → Bool} {cs : List Char} :
    cs.dropWhile p = [] ↔ cs.all p = true := by
  induction cs with
  | nil => simp
  | cons c rest ih => by_cases h : p c = true <;> simp [h, ih]

end Gamebook.Text
