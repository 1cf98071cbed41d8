import Gamebook.Book.Index

/-!
# The check of a scene

Scenes are checked one by one, and the choices of a scene in the order in which they stand. The
faults of one choice are looked for in a fixed order: the number zero, a number that an earlier
choice of the scene has, a lack of effects, a target that no scene has. A scene without choices
that does not end the story comes last, and only a strict check minds it.

* `choicesDefect?_cons`: the fault of the first choice goes before those of the rest.
-/

namespace Gamebook

/-- What to do about a scene that `Scene.isDeadEnd`. -/
inductive DeadEndPolicy where
  /-- Accept them with a warning. -/
  | warn
  /-- Refuse the story. -/
  | deny
deriving DecidableEq

/-- Whether the player can neither go on from a scene nor has come to an end there. -/
def Scene.isDeadEnd (scene : Scene) : Bool := !scene.isEnd && scene.choices.isEmpty

/-- The first target of a choice that `Index.knows` nothing of. -/
def Choice.unknownTarget? (choice : Choice) (index : Index) : Option String :=
  (choice.effects.filterMap Effect.target?).find? fun id => !index.knows id

/-- The `Defect` of a choice of a scene, given the numbers of the choices before it. -/
def Choice.defect? (choice : Choice) (index : Index) (scene : String) (before : List UInt32) :
    Option Defect :=
  if choice.number = 0 then some (.zeroChoice scene)
  else if before.contains choice.number then some (.duplicateChoice scene choice.number)
  else if choice.effects.isEmpty then some (.noEffects scene choice.number)
  else (choice.unknownTarget? index).map (.danglingTarget scene choice.number)

/-- The first `Choice.defect?` of the choices of a scene, given the numbers of those before them. -/
def choicesDefect? (index : Index) (scene : String) : List UInt32 → List Choice → Option Defect
  | _, [] => none
  | before, choice :: rest =>
    (choice.defect? index scene before).or
      (choicesDefect? index scene (choice.number :: before) rest)

/-- The first `Defect` of a scene: that of a choice, or a dead end where this counts. -/
def Scene.defect? (scene : Scene) (index : Index) (policy : DeadEndPolicy) : Option Defect :=
  (choicesDefect? index scene.id [] scene.choices).or
    (if policy = .deny ∧ scene.isDeadEnd then some (.deadEnd scene.id) else none)

@[simp]
theorem choicesDefect?_nil {index : Index} {scene : String} {before : List UInt32} :
    choicesDefect? index scene before [] = none := rfl

/-- In `choicesDefect?` the fault of the first choice goes before those of the rest. -/
theorem choicesDefect?_cons {index : Index} {scene : String} {before : List UInt32}
    {choice : Choice} {rest : List Choice} :
    choicesDefect? index scene before (choice :: rest) =
      (choice.defect? index scene before).or
        (choicesDefect? index scene (choice.number :: before) rest) := rfl

/-- Under `DeadEndPolicy.warn` the check looks at the choices only. -/
theorem Scene.defect?_warn {scene : Scene} {index : Index} :
    scene.defect? index .warn = choicesDefect? index scene.id [] scene.choices := by
  simp [Scene.defect?]

end Gamebook
