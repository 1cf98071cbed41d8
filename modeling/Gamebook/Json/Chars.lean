import Gamebook.Text.NameChars

/-!
# Characters of relaxed JSON

The classes of characters that the grammar tells apart: ends of lines, spaces between tokens,
characters of names and hexadecimal digits.

* `hexValue?` reads hexadecimal digits.
* `length_dropWhile_le`: dropping characters never makes a text longer.
-/

namespace Gamebook.Json

/-- The characters that end a line. -/
def isLineEnd (c : Char) : Bool :=
  c == '\n' || c == '\r' || c == '\u2028' || c == '\u2029'

/-- The ranges of the spaces between tokens that do not end a line. -/
def spaceRanges : Text.Ranges :=
  [(0x9, 0x9), (0xB, 0xC), (0x20, 0x20), (0xA0, 0xA0), (0x1680, 0x1680), (0x2000, 0x200A),
    (0x202F, 0x202F), (0x205F, 0x205F), (0x3000, 0x3000), (0xFEFF, 0xFEFF)]

/-- The characters that may stand between tokens. -/
def isSpace (c : Char) : Bool := spaceRanges.has c.toNat || isLineEnd c

/-- The characters with which a name may start, apart from a coded one. -/
def startsName (c : Char) : Bool := Text.isLetter c || c == '$' || c == '_'

/-- The characters with which a name may go on, apart from coded ones. -/
def continuesName (c : Char) : Bool :=
  startsName c || Text.isMark c || c == '\u200c' || c == '\u200d'

/-- The value of a hexadecimal digit. -/
def hexDigit? (c : Char) : Option Nat :=
  if c.isDigit then some (c.toNat - '0'.toNat)
  else if 'a' ≤ c ∧ c ≤ 'f' then some (c.toNat - 'a'.toNat + 10)
  else if 'A' ≤ c ∧ c ≤ 'F' then some (c.toNat - 'A'.toNat + 10)
  else none

/-- Whether a character is a hexadecimal digit. -/
def isHexDigit (c : Char) : Bool := (hexDigit? c).isSome

/-- The value of hexadecimal digits, if all of them are. -/
def hexValue? (cs : List Char) : Option Nat :=
  cs.foldlM (fun n c => (hexDigit? c).map (16 * n + ·)) 0

theorem length_dropWhile_le (p : Char → Bool) (cs : List Char) :
    (cs.dropWhile p).length ≤ cs.length :=
  (List.dropWhile_suffix p).length_le

end Gamebook.Json
