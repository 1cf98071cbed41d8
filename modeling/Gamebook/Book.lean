import Gamebook.Book.Check
import Gamebook.Book.Trail
import Gamebook.Page

/-!
# Books

A book is a story that passed the check: no two scenes have the same id, the start is a scene,
every choice can be typed, does something and leads to scenes only. With it come the warnings:
scenes where a player gets stuck and scenes that no walk from the start comes to.

* `Book.ofStory` checks a story. The first fault counts: ids first, then the start, then the
  scenes in their order.
* `Book.ofStory_eq_ok_iff` and `Book.ofStory_eq_error_iff`: what becomes of a story.
* `Book.scenes_of_ofStory`: a book has the scenes of its story, unchanged and in order.
-/

namespace Gamebook

/-- What an author should know about a `Book` that can be played all the same. -/
inductive Warning where
  /-- The scene has no choices and does not end the story. -/
  | deadEnd (scene : String)
  /-- No choices lead from the start to the scene. -/
  | unreachable (scene : String)
deriving DecidableEq

namespace Warning

/-- The id of the scene that a warning is about. -/
def scene : Warning → String
  | .deadEnd scene | .unreachable scene => scene

/-- The wording of a warning. -/
def message : Warning → String
  | .deadEnd scene => deadEndMessage scene
  | .unreachable scene => "scene \"" ++ scene ++ "\" is unreachable from the start scene"

end Warning

/-- A story that was checked. -/
structure Book where
  /-- The id of the scene where play starts. -/
  start : String
  scenes : List Scene
  index : Index
  warnings : List Warning
deriving DecidableEq

namespace Book

/-- One `Warning.deadEnd` for each dead end, in the order of the scenes. -/
def deadEndWarnings (scenes : List Scene) : List Warning :=
  (scenes.filter Scene.isDeadEnd).map fun scene => .deadEnd scene.id

/-- One `Warning.unreachable` for each scene that is not among the ids reached, in the order of the
scenes. -/
def unreachableWarnings (reached : List String) (scenes : List Scene) : List Warning :=
  (scenes.filter fun scene => !reached.contains scene.id).map fun scene => .unreachable scene.id

/-- The warnings about a list of scenes: `deadEndWarnings` and then `unreachableWarnings`. -/
def warningsOf (index : Index) (start : String) (scenes : List Scene) : List Warning :=
  deadEndWarnings scenes ++ unreachableWarnings (index.trailFrom scenes start) scenes

/-- Checks a `Story` and makes a book of it. -/
def ofStory (policy : DeadEndPolicy) (story : Story) : Except Defect Book :=
  match Index.ofScenes story.scenes with
  | .error defect => .error defect
  | .ok index =>
    if index.knows story.start then
      match story.scenes.findSome? (·.defect? index policy) with
      | some defect => .error defect
      | none =>
        .ok ⟨story.start, story.scenes, index, warningsOf index story.start story.scenes⟩
    else .error (.missingStart story.start)

/-- The scene of the book with an id, or else `Error.sceneNotFound`. -/
def get (book : Book) (id : String) : Except Error Scene :=
  match book.index.scene? book.scenes id with
  | some scene => .ok scene
  | none => .error (.sceneNotFound id)

/-- What `Book.ofStory` makes of a story that passes the check. -/
theorem ofStory_eq_ok_iff {policy : DeadEndPolicy} {story : Story} {book : Book} :
    ofStory policy story = .ok book ↔
      ∃ index, Index.ofScenes story.scenes = .ok index ∧ index.knows story.start = true ∧
        (∀ scene ∈ story.scenes, scene.defect? index policy = none) ∧
        book = ⟨story.start, story.scenes, index,
          warningsOf index story.start story.scenes⟩ := by
  rw [ofStory]
  cases hindex : Index.ofScenes story.scenes with
  | error defect => simp
  | ok index =>
    by_cases hstart : index.knows story.start = true
    · cases hdefect : story.scenes.findSome? (·.defect? index policy) with
      | some defect =>
        obtain ⟨scene, hmem, hsome⟩ := List.exists_of_findSome?_eq_some hdefect
        simp only [hstart, hdefect, if_true, reduceCtorEq, false_iff, not_exists]
        rintro other ⟨hother, -, hnone, -⟩
        cases hother
        rw [hnone scene hmem] at hsome
        exact absurd hsome (by simp)
      | none =>
        simp only [hstart, hdefect, if_true, Except.ok.injEq]
        constructor
        · rintro rfl
          exact ⟨index, rfl, hstart, List.findSome?_eq_none_iff.mp hdefect, rfl⟩
        · rintro ⟨other, rfl, -, -, rfl⟩
          rfl
    · simp only [hstart, Bool.false_eq_true, if_false, reduceCtorEq, false_iff, not_exists]
      rintro other ⟨hother, htrue, -⟩
      cases hother
      exact absurd htrue hstart

/-- Why `Book.ofStory` refuses a story: two scenes have the same id, the start is no scene, or a
scene has a `Scene.defect?`, and then it is the first of these. -/
theorem ofStory_eq_error_iff {policy : DeadEndPolicy} {story : Story} {defect : Defect} :
    ofStory policy story = .error defect ↔
      Index.ofScenes story.scenes = .error defect ∨
        ∃ index, Index.ofScenes story.scenes = .ok index ∧
          (index.knows story.start = false ∧ defect = .missingStart story.start ∨
            index.knows story.start = true ∧
              story.scenes.findSome? (·.defect? index policy) = some defect) := by
  rw [ofStory]
  cases hindex : Index.ofScenes story.scenes with
  | error other => simp
  | ok index =>
    cases hstart : index.knows story.start with
    | false => simp [hstart, eq_comm (a := defect)]
    | true =>
      cases hdefect : story.scenes.findSome? (·.defect? index policy) <;> simp [hstart, hdefect]

/-- `Book.ofStory` keeps the scenes of the story, unchanged and in order. -/
theorem scenes_of_ofStory {policy : DeadEndPolicy} {story : Story} {book : Book}
    (h : ofStory policy story = .ok book) : book.scenes = story.scenes := by
  obtain ⟨index, -, -, -, rfl⟩ := ofStory_eq_ok_iff.mp h
  rfl

/-- `Book.ofStory` keeps the start of the story. -/
theorem start_of_ofStory {policy : DeadEndPolicy} {story : Story} {book : Book}
    (h : ofStory policy story = .ok book) : book.start = story.start := by
  obtain ⟨index, -, -, -, rfl⟩ := ofStory_eq_ok_iff.mp h
  rfl

end Book

end Gamebook
