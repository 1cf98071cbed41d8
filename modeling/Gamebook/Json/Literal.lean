import Gamebook.Error
import Gamebook.Json.Chars
import Gamebook.Json.Tree
import Gamebook.Json.Value

/-!
# The meaning of literals

What strings and numbers stand for once a text is known to be well formed. Literals are looked
at in the order of the text, keys and values of unused members included, and the first one that
stands for nothing is reported.

* `Piece.decode` reads strings. Two coded halves of a surrogate pair make one character, whose
  code is put together with a bitwise *or*: where the first half gives the bit `0x10000`, the
  one that a pair adds has no effect.
* `Numeral.value` reads numbers. Those that are infinite or no numbers become null.
* `Tree.value` reads a whole text.
-/

namespace Gamebook.Json

/-! ### Strings -/

/-- Whether a unit of UTF-16 is the first half of a surrogate pair. -/
def isLead (code : UInt16) : Bool := 0xD800 ≤ code && code ≤ 0xDBFF

/-- Whether a number is the second half of a surrogate pair. -/
def isTrail (code : Nat) : Bool := 0xDC00 ≤ code && code ≤ 0xDFFF

/-- The character of a surrogate pair: `isLead` holds of the first half and `isTrail` of the
second. -/
def pairChar (lead : UInt16) (trail : Nat) : Char :=
  .ofNat (((lead.toNat - 0xD800) <<< 10) ||| ((trail - 0xDC00) + 0x10000))

/-- What a character after a backslash stands for. -/
def controlChar (c : Char) : Char :=
  if c = 'b' then '\x08'
  else if c = 'f' then '\x0c'
  else if c = 'n' then '\n'
  else if c = 'r' then '\r'
  else if c = 't' then '\t'
  else if c = 'v' then '\x0b'
  else c

namespace Piece

/-- The number that the characters of a piece give in hexadecimal, the backslash and the letter
of a code apart. -/
def hexValue? : Piece → Option Nat
  | .plain c | .escaped c => hexDigit? c
  | .nul => some 0
  | .byte code => some code.toNat
  | .unit code => some code.toNat

/-- The characters that a list of `Piece` stands for. -/
def decode : List Piece → Except LiteralFault (List Char)
  | [] => .ok []
  | .plain c :: rest => (c :: ·) <$> decode rest
  | .escaped c :: rest => (controlChar c :: ·) <$> decode rest
  | .nul :: rest => ('\x00' :: ·) <$> decode rest
  | .byte code :: rest => (Char.ofNat code.toNat :: ·) <$> decode rest
  | .unit code :: rest =>
    if isTrail code.toNat then .error .strayTrail
    else if isLead code then
      match rest with
      | [] => .error .missingTrail
      | next :: rest =>
        match next.hexValue? with
        | none => .error .hexadecimal
        | some trail =>
          if isTrail trail then (pairChar code trail :: ·) <$> decode rest
          else .error .expectedTrail
    else (Char.ofNat code.toNat :: ·) <$> decode rest

/-- The text that a list of `Piece` stands for. -/
def text (pieces : List Piece) : Except LiteralFault String := String.ofList <$> decode pieces

end Piece

/-! ### Numbers -/

/-- A natural number with a sign. -/
def signed (sign : Option Sign) (n : Nat) : Int := if sign = some .minus then -n else n

/-- The natural number of decimal digits. -/
def ofDigits (digits : List Char) : Nat := Nat.ofDigitChars 10 digits 0

/-- The number of a decimal numeral that has a point or an exponent, which is a `Binary64`. -/
def floatValue (sign : Option Sign) (whole fraction : List Char)
    (exponent : Option (Option Sign × List Char)) : Except LiteralFault Value :=
  let power := (exponent.map fun (esign, digits) => signed esign (ofDigits digits)).getD 0
  match Binary64.ofDecimal? (sign == some .minus) (ofDigits (whole ++ fraction))
      (power - fraction.length) with
  | some x => .ok (.float x)
  | none => .error .tooLarge

/-- The number of a decimal numeral. Without a point and an exponent it is an integer, which has
to fit 64 bits. -/
def decimalValue (sign : Option Sign) (whole : List Char) (fraction : Option (List Char))
    (exponent : Option (Option Sign × List Char)) : Except LiteralFault Value :=
  if fraction.isNone && exponent.isNone then
    let n := signed sign (ofDigits whole)
    if Int64.minValue.toInt ≤ n ∧ n ≤ Int64.maxValue.toInt then .ok (.int n) else .error .integer
  else floatValue sign whole (fraction.getD []) exponent

/-- What a number stands for. Infinite numbers and those that are no numbers may not have a plus
sign, and hexadecimal ones no sign at all; a sign is an error of the digits `e` if there are
any. -/
def Numeral.value (numeral : Numeral) : Except LiteralFault Value :=
  match numeral.magnitude with
  | .infinity | .notANumber =>
    if numeral.sign = some .plus then .error .integer else .ok .null
  | .hexadecimal digits =>
    if numeral.sign.isSome then
      if digits.contains 'e' || digits.contains 'E' then .error .number else .error .integer
    else
      let n := (hexValue? digits).getD 0
      if n < UInt32.size then .ok (.int n) else .error .hexadecimal
  | .decimal whole fraction exponent => decimalValue numeral.sign whole fraction exponent

/-! ### Values -/

mutual

/-- The `Value` that a text stands for. -/
def Tree.value : Tree → Except LiteralFault Value
  | .null => .ok .null
  | .bool value => .ok (.bool value)
  | .number numeral => numeral.value
  | .string pieces => .string <$> Piece.text pieces
  | .array items => .array <$> Tree.values items
  | .object members => .object <$> Tree.members members

/-- The `Tree.value` of each element of an array. -/
def Tree.values : List Tree → Except LiteralFault (List Value)
  | [] => .ok []
  | tree :: rest => do return (← tree.value) :: (← Tree.values rest)

/-- The `Tree.value` of each member of an object, under its key. -/
def Tree.members : List (List Piece × Tree) → Except LiteralFault (List (String × Value))
  | [] => .ok []
  | (key, tree) :: rest => do return (← Piece.text key, ← tree.value) :: (← Tree.members rest)

end

end Gamebook.Json
