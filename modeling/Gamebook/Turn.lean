import Gamebook.Book
import Gamebook.Selection

/-!
# Turns

What happens when a player of a book selects a choice by its number. In an end scene every
number is unknown. A choice that is not available leaves the player alone; one that is has its
effects carried out, and if one of them is refused, those before it remain done.

* `Book.select_of_isEnd`, `Book.select_of_choice?_eq_none`, `Book.select_of_unavailable` and
  `Book.select_of_available` cover all cases of a player who stands in a scene.
-/

namespace Gamebook

/-- What became of a selection, where it did not fail. -/
inductive Answer where
  /-- The effects of the choice were carried out. -/
  | applied
  /-- The scene offers no choice with this number. -/
  | noSuchChoice (number : UInt32)
  /-- The choice is not available. -/
  | disabled (reason : Option String)
deriving DecidableEq

namespace Book

/-- A `Player` at the start of a book. -/
def newPlayer (book : Book) : Player := .atScene book.start

/-- The `Scene.page` that a player is shown. -/
def page (book : Book) (player : Player) : Except Error Page :=
  (book.get player.scene).map (·.page player)

/-- Whether a player has come to an end scene, as `Scene.isEnd` tells. -/
def isFinished (book : Book) (player : Player) : Except Error Bool :=
  (book.get player.scene).map Scene.isEnd

/-- A player takes the `Scene.choice?` with a number. -/
def selectIn (scene : Scene) (player : Player) (number : UInt32) :
    Player × Except Error Answer :=
  if scene.isEnd then (player, .ok (.noSuchChoice number))
  else
    match scene.choice? number with
    | none => (player, .ok (.noSuchChoice number))
    | some choice =>
      match choice.availability player.flags with
      | .unavailable reason => (player, .ok (.disabled reason))
      | .available =>
        let (after, result) := player.carryOut choice.effects
        (after, result.map fun _ => .applied)

/-- A player takes the choice with a number of the scene where the player stands, as in
`selectIn`. -/
def select (book : Book) (player : Player) (number : UInt32) : Player × Except Error Answer :=
  match book.get player.scene with
  | .error error => (player, .error error)
  | .ok scene => selectIn scene player number

/-- A player who stands in a scene is shown its `Scene.page`. -/
theorem page_of_get {book : Book} {player : Player} {scene : Scene}
    (hscene : book.get player.scene = .ok scene) :
    book.page player = .ok (scene.page player) := by
  simp [page, hscene, Except.map]

/-- A player has come to an end when `Scene.isEnd` holds where the player stands. -/
theorem isFinished_of_get {book : Book} {player : Player} {scene : Scene}
    (hscene : book.get player.scene = .ok scene) :
    book.isFinished player = .ok scene.isEnd := by
  simp [isFinished, hscene, Except.map]

/-- An end scene answers every number with `Answer.noSuchChoice`. -/
theorem select_of_isEnd {book : Book} {player : Player} {scene : Scene} {number : UInt32}
    (hscene : book.get player.scene = .ok scene) (h : scene.isEnd = true) :
    book.select player number = (player, .ok (.noSuchChoice number)) := by
  simp [select, selectIn, hscene, h]

/-- A number that no choice of the scene has changes nothing and is answered with
`Answer.noSuchChoice`. -/
theorem select_of_choice?_eq_none {book : Book} {player : Player} {scene : Scene}
    {number : UInt32} (hscene : book.get player.scene = .ok scene)
    (h : scene.choice? number = none) :
    book.select player number = (player, .ok (.noSuchChoice number)) := by
  simp [select, selectIn, hscene, h]

/-- A choice that is not available changes nothing and is answered with `Answer.disabled` and the
author's reason. -/
theorem select_of_unavailable {book : Book} {player : Player} {scene : Scene} {choice : Choice}
    {number : UInt32} (hscene : book.get player.scene = .ok scene) (hend : scene.isEnd = false)
    (hchoice : scene.choice? number = some choice) (h : choice.isMet player.flags = false) :
    book.select player number = (player, .ok (.disabled choice.disabledReason)) := by
  simp [select, selectIn, hscene, hend, hchoice, Choice.availability, h]

/-- The effects of a choice that is available are carried out by `Player.carryOut`. -/
theorem select_of_available {book : Book} {player : Player} {scene : Scene} {choice : Choice}
    {number : UInt32} (hscene : book.get player.scene = .ok scene) (hend : scene.isEnd = false)
    (hchoice : scene.choice? number = some choice) (h : choice.isMet player.flags = true) :
    book.select player number =
      ((player.carryOut choice.effects).1,
        (player.carryOut choice.effects).2.map fun _ => .applied) := by
  simp [select, selectIn, hscene, hend, hchoice, Choice.availability, h]

end Book

end Gamebook
