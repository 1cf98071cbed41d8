import Gamebook.Binary64.Shortest
import Gamebook.Text.Quoted

/-!
# Values of relaxed JSON

What a text in relaxed JSON stands for. Numbers that are written as integers are kept apart from
those that are not. An object lists its members in the order in which they were written; where a
key is repeated, the last member counts.
-/

namespace Gamebook.Json

/-- A value of relaxed JSON. -/
inductive Value where
  | null
  | bool (value : Bool)
  | int (value : Int)
  | float (value : Binary64)
  | string (text : String)
  | array (items : List Value)
  | object (members : List (String × Value))

/-- A `Value` in the words of a message. -/
def Value.describe : Value → String
  | .null => "null"
  | .bool value => "boolean `" ++ toString value ++ "`"
  | .int value => "integer `" ++ toString value ++ "`"
  | .float value => "floating point `" ++ value.text ++ "`"
  | .string text => "string " ++ Text.quoted text
  | .array _ => "sequence"
  | .object _ => "map"

end Gamebook.Json
