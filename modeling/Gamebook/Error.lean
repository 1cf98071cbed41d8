import Gamebook.Story

/-!
# What can go wrong

The causes for which a story is refused or a step of play fails, and their wording. A `Defect`
is a fault of the story itself. The other constructors of `Error` are an unknown scene id and
the ways in which a story file cannot be read.
-/

namespace Gamebook

/-- A fault of a `Story`. -/
inductive Defect where
  /-- Two scenes have this id. -/
  | duplicateScene (scene : String)
  /-- No scene has the id of the start. -/
  | missingStart (scene : String)
  /-- A choice goes to an id that no scene has. -/
  | danglingTarget (scene : String) (choice : UInt32) (target : String)
  /-- Two choices of a scene have this number. -/
  | duplicateChoice (scene : String) (number : UInt32)
  /-- A choice of this scene has the number zero. -/
  | zeroChoice (scene : String)
  /-- A choice does nothing. -/
  | noEffects (scene : String) (choice : UInt32)
  /-- The scene has no choices and does not end the story. -/
  | deadEnd (scene : String)
  /-- An effect of this kind has a value without visible characters. -/
  | blankValue (kind : Effect.Kind)
  /-- No kind of effect has this name. -/
  | unknownEffect (tag : String)
deriving DecidableEq

/-- The wording of a dead end, which is a `Defect` or a `Warning`. -/
def deadEndMessage (scene : String) : String :=
  "scene \"" ++ scene ++ "\" is not an end scene but has no choices"

/-- The wording of a `Defect`. Names stand between double quotes as they are. -/
def Defect.message : Defect → String
  | .duplicateScene scene => "duplicate scene id: \"" ++ scene ++ "\""
  | .missingStart scene => "start scene not found: \"" ++ scene ++ "\""
  | .danglingTarget scene choice target =>
    "scene \"" ++ scene ++ "\", choice " ++ toString choice.toNat ++ ": goto target \"" ++ target
      ++ "\" does not exist"
  | .duplicateChoice scene number =>
    "scene \"" ++ scene ++ "\": duplicate choice number " ++ toString number.toNat
  | .zeroChoice scene => "scene \"" ++ scene ++ "\": choice numbers must be positive, found 0"
  | .noEffects scene choice =>
    "scene \"" ++ scene ++ "\", choice " ++ toString choice.toNat ++ ": no effects"
  | .deadEnd scene => deadEndMessage scene
  | .blankValue kind => kind.name ++ " requires a non-empty value"
  | .unknownEffect tag => "unknown effect type: \"" ++ tag ++ "\""

/-- What a literal of a story file cannot be. -/
inductive LiteralFault where
  /-- A hexadecimal number above 32 bits, or a surrogate followed by something else than digits. -/
  | hexadecimal
  /-- An integer that does not fit 64 bits or is written with a sign it may not have. -/
  | integer
  /-- A number that is written with a sign it may not have. -/
  | number
  /-- A number that rounds to no finite value. -/
  | tooLarge
  /-- The second half of a surrogate pair without the first. -/
  | strayTrail
  /-- The first half of a surrogate pair at the end of a string. -/
  | missingTrail
  /-- The first half of a surrogate pair before something else than the second. -/
  | expectedTrail
deriving DecidableEq

/-- The wording of a `LiteralFault`. -/
def LiteralFault.message : LiteralFault → String
  | .hexadecimal => "error parsing hex"
  | .integer => "error parsing integer"
  | .number => "error parsing number"
  | .tooLarge => "error parsing number: too large"
  | .strayTrail => "unexpected unicode trail surrogate"
  | .missingTrail => "missing unicode trail surrogate"
  | .expectedTrail => "expecting unicode trail surrogate"

/-- Where the contents of a story file depart from the form of a `Story`. -/
inductive ShapeFault where
  /-- A value of one sort stands where another is expected; both are given in words. -/
  | wrongType (found expected : String)
  /-- An integer lies outside the numbers a choice may have. -/
  | outOfRange (found : Int) (expected : String)
  /-- An object lacks the entry that its record needs. -/
  | missingField (field : String)
  /-- An array is empty and so lacks the field that its record needs. -/
  | tooFew (record : String) (fields : Nat)
  /-- An array has more elements than its record has fields. -/
  | tooMany (length : Nat)
deriving DecidableEq

/-- The wording of a `ShapeFault`. -/
def ShapeFault.message : ShapeFault → String
  | .wrongType found expected => "invalid type: " ++ found ++ ", expected " ++ expected
  | .outOfRange found expected =>
    "invalid value: integer `" ++ toString found ++ "`, expected " ++ expected
  | .missingField field => "missing field `" ++ field ++ "`"
  | .tooFew record fields =>
    "invalid length 0, expected " ++ record ++ " with " ++ toString fields ++ " elements"
  | .tooMany length =>
    "invalid length " ++ toString length ++ ", expected fewer elements in array"

/-- Why a file could not be read. -/
inductive ReadFault where
  | notFound
  | isDirectory
  | notDirectory
  | nameTooLong
  /-- The bytes of the file are not the UTF-8 form of a text. -/
  | notText
  /-- Another reason, in the words of the system. -/
  | other (words : String)
deriving DecidableEq

/-- The wording of a `ReadFault`. -/
def ReadFault.message : ReadFault → String
  | .notFound => "No such file or directory (os error 2)"
  | .isDirectory => "Is a directory (os error 21)"
  | .notDirectory => "Not a directory (os error 20)"
  | .nameTooLong => "File name too long (os error 36)"
  | .notText => "stream did not contain valid UTF-8"
  | .other words => words

/-- Why an operation on a `Story` or a story file failed. -/
inductive Error where
  /-- The story has a fault. -/
  | invalid (defect : Defect)
  /-- No scene of the story has this id. -/
  | sceneNotFound (id : String)
  /-- The text of a story file does not follow the grammar. -/
  | grammar
  | literal (fault : LiteralFault)
  | shape (fault : ShapeFault)
  | unreadable (path : String) (fault : ReadFault)
deriving DecidableEq

namespace Error

/-- The wording of an `Error`. What is said of a text that does not follow the grammar, with the
place where it goes wrong, is not modelled: one fixed text stands for every `Error.grammar`. -/
def message : Error → String
  | .invalid defect => "validation error: " ++ defect.message
  | .sceneNotFound id => "scene not found: \"" ++ id ++ "\""
  | .grammar => "could not parse story: the text is not well formed"
  | .literal fault => "could not parse story: " ++ fault.message
  | .shape fault => "could not parse story: " ++ fault.message
  | .unreadable path fault => "could not read " ++ path ++ ": " ++ fault.message

/-- Whether the story itself is at fault, as for an `Error.invalid`. -/
def isInvalid : Error → Bool
  | .invalid _ => true
  | _ => false

end Error

end Gamebook
