/-!
# Tokens

The smallest parts of a text in relaxed JSON. A token keeps what was written where its meaning
is settled later: a string is a list of pieces and a number is a numeral, since both can be
well formed and yet stand for nothing.
-/

namespace Gamebook.Json

/-- One component of a string or of a name, as it is spelled. -/
inductive Piece where
  /-- A character that stands for itself. -/
  | plain (c : Char)
  /-- A character after a backslash. -/
  | escaped (c : Char)
  /-- A zero after a backslash. -/
  | nul
  /-- A code of two hexadecimal digits. -/
  | byte (code : UInt8)
  /-- A code of four hexadecimal digits, which is one unit of UTF-16. -/
  | unit (code : UInt16)
deriving DecidableEq

/-- The sign in front of a number or of its exponent. -/
inductive Sign where
  | plus
  | minus
deriving DecidableEq

/-- What is written of a number after its `Sign`. -/
inductive Magnitude where
  | infinity
  | notANumber
  /-- The hexadecimal digits after `0x`. -/
  | hexadecimal (digits : List Char)
  /-- The digits before the point, those after it if there is one, and the exponent if there is
  one. -/
  | decimal (whole : List Char) (fraction : Option (List Char))
      (exponent : Option (Option Sign × List Char))
deriving DecidableEq

/-- A number as it is spelled: a `Magnitude`, perhaps with a `Sign`. -/
structure Numeral where
  sign : Option Sign
  magnitude : Magnitude
deriving DecidableEq

/-- A part of a text that is read as one. -/
inductive Token where
  | leftBrace
  | rightBrace
  | leftBracket
  | rightBracket
  | colon
  | comma
  /-- A quoted text. -/
  | string (pieces : List Piece)
  /-- A text without quotes, such as a key or `true`. -/
  | name (pieces : List Piece)
  | number (numeral : Numeral)
deriving DecidableEq

end Gamebook.Json
