import Gamebook.FlagSet

/-!
# Stories

A story is a list of scenes and the id of the scene where play starts. A scene offers numbered
choices; a choice asks for flags that must be set or must not be set, and has effects that are
carried out in order when it is taken.

These are plain data: nothing here says that a story can be played. `Gamebook.Book` is a story
that was checked.
-/

namespace Gamebook

/-- What an `Effect` does with its value. -/
inductive Effect.Kind where
  | setFlag
  | clearFlag
  | gotoScene
deriving DecidableEq

/-- The name of an `Effect.Kind` in story files and in messages. -/
def Effect.Kind.name : Effect.Kind → String
  | .setFlag => "SetFlag"
  | .clearFlag => "ClearFlag"
  | .gotoScene => "GotoScene"

/-- One step of a `Choice`: a flag to set, a flag to clear or a scene to go to. -/
structure Effect where
  kind : Effect.Kind
  /-- The name of the flag or the id of the scene. -/
  value : String
deriving DecidableEq

namespace Effect

/-- The id of the scene that an `Effect` goes to, if it goes to one. -/
def target? (effect : Effect) : Option String :=
  match effect.kind with
  | .gotoScene => some effect.value
  | .setFlag | .clearFlag => none

/-- The text of an effect, such as `SetFlag(lamp)`. -/
def describe (effect : Effect) : String := effect.kind.name ++ "(" ++ effect.value ++ ")"

/-- An effect has an `Effect.target?` exactly when it goes to a scene, and then it is its value. -/
theorem target?_eq_some_iff {effect : Effect} {id : String} :
    effect.target? = some id ↔ effect = ⟨.gotoScene, id⟩ := by
  obtain ⟨kind, value⟩ := effect
  cases kind <;> simp [target?]

end Effect

/-- One numbered option of a `Scene`. -/
structure Choice where
  /-- What the player types to take it. -/
  number : UInt32
  text : String
  /-- The flags that must all be set. -/
  requiresAll : FlagSet
  /-- The flags none of which may be set. -/
  requiresNone : FlagSet
  /-- The author's words for a choice that cannot be taken. -/
  disabledReason : Option String
  effects : List Effect
deriving DecidableEq

/-- One place of a `Story`. -/
structure Scene where
  id : String
  text : String
  /-- The story is over when the player comes here. -/
  isEnd : Bool
  choices : List Choice
deriving DecidableEq

namespace Scene

/-- The first `Choice` of a scene with a number. -/
def choice? (scene : Scene) (number : UInt32) : Option Choice :=
  scene.choices.find? (·.number == number)

/-- All effects of a `Scene`, choice by choice. -/
def effects (scene : Scene) : List Effect := scene.choices.flatMap (·.effects)

/-- The ids that the `Scene.effects` go to, in order and with repeats. -/
def targets (scene : Scene) : List String := scene.effects.filterMap Effect.target?

/-- `Scene.targets` are the values of the effects that go to a scene. -/
theorem mem_targets_iff {scene : Scene} {id : String} :
    id ∈ scene.targets ↔ ∃ choice ∈ scene.choices, ⟨.gotoScene, id⟩ ∈ choice.effects := by
  simp only [targets, effects, List.mem_filterMap, List.mem_flatMap, Effect.target?_eq_some_iff]
  constructor
  · rintro ⟨effect, ⟨choice, hchoice, heffect⟩, rfl⟩
    exact ⟨choice, hchoice, heffect⟩
  · rintro ⟨choice, hchoice, heffect⟩
    exact ⟨_, ⟨choice, hchoice, heffect⟩, rfl⟩

end Scene

/-- A story as its author wrote it. -/
structure Story where
  /-- The id of the scene where play starts. -/
  start : String
  scenes : List Scene
deriving DecidableEq

end Gamebook
