import Gamebook.Text.Printable

/-!
# Quoted texts

How a text is shown inside a message: between double quotes, with quotes and backslashes behind
a backslash, common controls by a letter and other characters that do not show, or that would
join the one before them, by their code in hexadecimal.
-/

namespace Gamebook.Text

/-- A character inside a quoted text. -/
def quotedChar (c : Char) : List Char :=
  if c = '\x00' then ['\\', '0']
  else if c = '\t' then ['\\', 't']
  else if c = '\r' then ['\\', 'r']
  else if c = '\n' then ['\\', 'n']
  else if c = '"' ∨ c = '\\' then ['\\', c]
  else if extendsOther c || !isPrintable c then
    ['\\', 'u', '\x7b'] ++ Nat.toDigits 16 c.toNat ++ ['\x7d']
  else [c]

/-- A text between double quotes, character by character as `quotedChar` writes it. -/
def quoted (s : String) : String :=
  .ofList ('"' :: s.toList.flatMap quotedChar ++ ['"'])

end Gamebook.Text
