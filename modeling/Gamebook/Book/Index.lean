import Gamebook.Error

/-!
# Indexes of scenes

An index says at which position of a list of scenes the scene with an id stands. It is built
from the list and refused when two scenes have the same id.

* `Index.position?_file`: filing a scene changes the answer for its own id only.
* `Index.length_entries_of_ofScenes`: a list of scenes has as many entries as scenes.
-/

namespace Gamebook

/-- Ids of scenes with the positions where the scenes stand. -/
structure Index where
  entries : List (String × Nat)
deriving DecidableEq

namespace Index

/-- The `Index` without entries. -/
def empty : Index := ⟨[]⟩

/-- The position filed under an id. -/
def position? (index : Index) (id : String) : Option Nat := index.entries.lookup id

/-- Whether there is an `Index.position?` for an id. -/
def knows (index : Index) (id : String) : Bool := (index.position? id).isSome

/-- The `Index` with a position filed under an id. -/
def file (index : Index) (id : String) (position : Nat) : Index :=
  ⟨(id, position) :: index.entries⟩

/-- The scene at the `Index.position?` of an id in a list of scenes. -/
def scene? (index : Index) (scenes : List Scene) (id : String) : Option Scene :=
  (index.position? id).bind (scenes[·]?)

/-- Files the scenes of a list by `Index.file`, from a position on. The first scene whose id is
filed already is reported. -/
def fileAll (index : Index) (position : Nat) : List Scene → Except Defect Index
  | [] => .ok index
  | scene :: rest =>
    if index.knows scene.id then .error (.duplicateScene scene.id)
    else fileAll (index.file scene.id position) (position + 1) rest

/-- The `Index` of a list of scenes. -/
def ofScenes (scenes : List Scene) : Except Defect Index := empty.fileAll 0 scenes

@[simp]
theorem position?_empty {id : String} : empty.position? id = none := rfl

/-- `Index.file` changes the position of its own id only. -/
theorem position?_file {index : Index} {id other : String} {position : Nat} :
    (index.file id position).position? other =
      if other = id then some position else index.position? other := by
  by_cases h : other = id
  · simp [position?, file, h]
  · have hne : (other == id) = false := by simp [h]
    simp [position?, file, List.lookup_cons, h, hne]

/-- `Index.fileAll` adds one entry for each scene of the list. -/
private theorem length_entries_of_fileAll {scenes : List Scene} {index filed : Index}
    {position : Nat} (h : index.fileAll position scenes = .ok filed) :
    filed.entries.length = index.entries.length + scenes.length := by
  induction scenes generalizing index position with
  | nil =>
    cases h
    simp
  | cons scene rest ih =>
    rw [fileAll] at h
    split at h
    · exact absurd h (by simp)
    · rw [ih h]
      simp only [file, List.length_cons]
      omega

/-- An `Index.ofScenes` has as many entries as the list has scenes. -/
theorem length_entries_of_ofScenes {scenes : List Scene} {index : Index}
    (h : ofScenes scenes = .ok index) : index.entries.length = scenes.length := by
  rw [length_entries_of_fileAll h]
  simp [empty]

end Index

end Gamebook
