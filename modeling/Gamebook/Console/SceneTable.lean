import Gamebook.Book
import Gamebook.Console.Table

/-!
# The table of scenes

One row for each scene of a book, in the order of the scenes: its id, whether it ends the story,
how many choices it has and where these lead, each place once.

* `mem_places_iff`: the places of a scene are its targets.
-/

namespace Gamebook

/-- The `Scene.targets`, each where it comes first. -/
def Scene.places (scene : Scene) : List String := scene.targets.eraseDups

namespace Console

/-- What stands for a lack of places. -/
def noPlaces : String := "—"

/-- The cell that tells the `Scene.places`. -/
def placesCell (scene : Scene) : String :=
  if scene.places.isEmpty then noPlaces else ", ".intercalate scene.places

/-- The row of a `Scene`. -/
def sceneRow (scene : Scene) : List String :=
  [scene.id, if scene.isEnd then "yes" else "", toString scene.choices.length, placesCell scene]

/-- The `Table` of the scenes of a book. -/
def sceneTable (book : Book) : Table :=
  ⟨["Scene", "End", "Choices", "Leads to"], book.scenes.map sceneRow⟩

/-- `Scene.places` are the `Scene.targets` without repeats. -/
theorem mem_places_iff {scene : Scene} {id : String} : id ∈ scene.places ↔ id ∈ scene.targets :=
  List.mem_eraseDups

end Console

end Gamebook
