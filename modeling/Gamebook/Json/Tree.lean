import Gamebook.Json.Token

/-!
# Trees of tokens

What a text in relaxed JSON is made of, with its literals as they are spelled. The tokens of a
text are taken one by one. A stack holds the arrays and objects that are open, each with what
was read of it so far, and the state says what may come next. A comma may stand before a closing
bracket, but not alone.

* `Tree.ofTokens?` reads a whole text.
* `State.run_append`: tokens are taken one after the other.
-/

namespace Gamebook.Json

/-- A `Value` as it is spelled. -/
inductive Tree where
  | null
  | bool (value : Bool)
  | number (numeral : Numeral)
  | string (pieces : List Piece)
  | array (items : List Tree)
  | object (members : List (List Piece × Tree))

/-- The `Tree` that a name stands for where a value is wanted. Names for numbers are numbers without
a sign. -/
def keyword? (pieces : List Piece) : Option Tree :=
  if pieces = "null".toList.map .plain then some .null
  else if pieces = "true".toList.map .plain then some (.bool true)
  else if pieces = "false".toList.map .plain then some (.bool false)
  else if pieces = "Infinity".toList.map .plain then some (.number ⟨none, .infinity⟩)
  else if pieces = "NaN".toList.map .plain then some (.number ⟨none, .notANumber⟩)
  else none

/-- An array or object that is open, with what was read of it, the latest first. -/
inductive Frame where
  | array (items : List Tree)
  /-- An object that waits for the value of a key. -/
  | object (members : List (List Piece × Tree)) (key : List Piece)

/-- What may come next, and each `Frame` that is open around it. -/
inductive State where
  /-- A value must come. -/
  | value (stack : List Frame)
  /-- An element of an array or its end may come. -/
  | item (items : List Tree) (stack : List Frame)
  /-- A key of an object or its end may come. -/
  | member (members : List (List Piece × Tree)) (stack : List Frame)
  /-- The colon after a key must come. -/
  | colon (members : List (List Piece × Tree)) (key : List Piece) (stack : List Frame)
  /-- A value was read, and what comes next depends on what is open. -/
  | after (tree : Tree) (stack : List Frame)

namespace State

/-- Takes the first `Token` of a value. -/
def start (stack : List Frame) : Token → Option State
  | .leftBrace => some (.member [] stack)
  | .leftBracket => some (.item [] stack)
  | .string pieces => some (.after (.string pieces) stack)
  | .number numeral => some (.after (.number numeral) stack)
  | .name pieces => (keyword? pieces).map (.after · stack)
  | .rightBrace | .rightBracket | .colon | .comma => none

/-- Takes one `Token`. -/
def step : State → Token → Option State
  | .value stack, token => start stack token
  | .item items stack, .rightBracket => some (.after (.array items.reverse) stack)
  | .item items stack, token => start (.array items :: stack) token
  | .member members stack, .rightBrace => some (.after (.object members.reverse) stack)
  | .member members stack, .string key | .member members stack, .name key =>
    some (.colon members key stack)
  | .member _ _, _ => none
  | .colon members key stack, .colon => some (.value (.object members key :: stack))
  | .colon _ _ _, _ => none
  | .after tree (.array items :: stack), .comma => some (.item (tree :: items) stack)
  | .after tree (.array items :: stack), .rightBracket =>
    some (.after (.array (tree :: items).reverse) stack)
  | .after tree (.object members key :: stack), .comma =>
    some (.member ((key, tree) :: members) stack)
  | .after tree (.object members key :: stack), .rightBrace =>
    some (.after (.object ((key, tree) :: members).reverse) stack)
  | .after _ _, _ => none

/-- Takes a list of `Token`, step by step. -/
def run (state : State) (tokens : List Token) : Option State := tokens.foldlM step state

@[simp]
theorem run_cons {state : State} {token : Token} {tokens : List Token} :
    state.run (token :: tokens) = (state.step token).bind (·.run tokens) := rfl

/-- `State.run` takes tokens one after the other. -/
theorem run_append {state : State} {first second : List Token} :
    state.run (first ++ second) = (state.run first).bind (·.run second) := by
  simp [run, List.foldlM_append]

/-- The `Tree` that was read, if nothing is open. -/
def result? : State → Option Tree
  | .after tree [] => some tree
  | _ => none

end State

/-- The `Tree` whose tokens are given. -/
def Tree.ofTokens? (tokens : List Token) : Option Tree :=
  ((State.value []).run tokens).bind State.result?

end Gamebook.Json
