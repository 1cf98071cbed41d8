import Gamebook.Json.Literal
import Gamebook.Json.Scan
import Gamebook.Manuscript

/-!
# Story files

A story file is a text in relaxed JSON. It is read in three stages, and the first that fails
decides the error: the text must follow the grammar, its literals must stand for something, and
the value must have the form of a story. Only then are the names of effects looked at. Whether
the story can be played is not asked here.

* `Story.ofText` reads a story file, `Story.ofValue` the value that it stands for.
-/

namespace Gamebook

open Json

/-- An error of one sort as an `Error`. -/
def liftError {α ε : Type} (wrap : ε → Error) : Except ε α → Except Error α
  | .ok value => .ok value
  | .error error => .error (wrap error)

/-- The `Json.Tree` of a text in relaxed JSON. -/
def Json.Tree.ofText? (text : String) : Option Tree := (scan text.toList).bind Tree.ofTokens?

/-- The value `v` is what a text in relaxed JSON stands for. -/
def Json.Value.IsIn (v : Value) (text : String) : Prop :=
  ∃ tree, Tree.ofText? text = some tree ∧ tree.value = .ok v

/-- The `Story` that a value stands for. -/
def Story.ofValue (value : Value) : Except Error Story := do
  let manuscript ← liftError .shape (Manuscript.ofValue value)
  liftError .invalid manuscript.toStory

/-- The `Story` that a story file holds. -/
def Story.ofText (text : String) : Except Error Story :=
  match Json.Tree.ofText? text with
  | none => .error .grammar
  | some tree => do
    let value ← liftError .literal tree.value
    Story.ofValue value

@[simp]
theorem liftError_ok {α ε : Type} {wrap : ε → Error} {value : α} :
    liftError wrap (.ok value) = .ok value := rfl

@[simp]
theorem liftError_error {α ε : Type} {wrap : ε → Error} {error : ε} :
    liftError wrap (.error error : Except ε α) = .error (wrap error) := rfl

/-- `Story.ofText` gives what `Story.ofValue` gives for the value that the text stands for. -/
theorem Json.Value.IsIn.ofText_eq {v : Value} {text : String} (h : v.IsIn text) :
    Story.ofText text = Story.ofValue v := by
  obtain ⟨tree, htree, hvalue⟩ := h
  rw [Story.ofText, htree]
  dsimp only
  rw [hvalue]
  rfl

/-- `Story.ofText` reports a text that stands for no value as such, with `Error.grammar` or
`Error.literal`. -/
theorem Story.ofText_cases (text : String) :
    Story.ofText text = .error .grammar ∨
      (∃ fault, Story.ofText text = .error (.literal fault)) ∨ ∃ v : Value, v.IsIn text := by
  cases htree : Tree.ofText? text with
  | none =>
    refine .inl ?_
    rw [Story.ofText, htree]
  | some tree =>
    cases hvalue : tree.value with
    | ok v => exact .inr (.inr ⟨v, tree, htree, hvalue⟩)
    | error fault =>
      refine .inr (.inl ⟨fault, ?_⟩)
      rw [Story.ofText, htree]
      dsimp only
      rw [hvalue]
      rfl

end Gamebook
