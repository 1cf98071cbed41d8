import Gamebook.Json.Value
import Gamebook.Page

/-!
# Pages as values

A page as a value of relaxed JSON, for programs that show pages themselves. Its keys are those
of scenes and choices in story files, so that a page can be read as a scene again; whether an
entry is enabled, and the reason if it is not, come on top of that.
-/

namespace Gamebook

open Json (Value)

/-- A text or null. -/
def Json.Value.ofOption : Option String → Value
  | some text => .string text
  | none => .null

/-- An `Entry` as a value, with the field names of its record as keys. -/
def Entry.value (entry : Entry) : Value :=
  .object
    [("number", .int entry.number.toNat), ("text", .string entry.text),
      ("enabled", .bool entry.availability.isAvailable),
      ("reason", .ofOption entry.availability.reason?)]

/-- A `Page` as a value, with the field names of its record as keys. -/
def Page.value (page : Page) : Value :=
  .object
    [("id", .string page.id), ("text", .string page.text), ("isEnd", .bool page.isEnd),
      ("choices", .array (page.entries.map Entry.value))]

end Gamebook
