import Gamebook.Book
import Gamebook.Proofs.Book.Lookup

/-!
# Playable stories

What the check of a story demands, said without the check: `Scene.Playable` for one scene and
`Story.Playable` for a story. The check runs through ids, start, scenes and choices in turn and
stops at the first fault; it finds none exactly when the story is playable.

* `choicesDefect?_eq_none_iff` and `Scene.defect?_eq_none_iff`: scenes without a fault.
* `Book.ofStory_succeeds_iff_playable`: the stories that become books.
* `Book.WellFormed` is what a book keeps of the check, and `Book.WellFormed.get_eq_ok_iff` is
  the look-up of scenes in such a book.
-/

namespace Gamebook

/-- A scene that can be played in a story whose scenes have the given ids. -/
structure Scene.Playable (scene : Scene) (ids : List String) : Prop where
  number_ne_zero : ∀ choice ∈ scene.choices, choice.number ≠ 0
  nodup_numbers : (scene.choices.map (·.number)).Nodup
  effects_ne_nil : ∀ choice ∈ scene.choices, choice.effects ≠ []
  /-- The scenes gone to are scenes of the story. -/
  value_mem : ∀ choice ∈ scene.choices, ∀ effect ∈ choice.effects,
    effect.kind = .gotoScene → effect.value ∈ ids

/-- A story that can be played under a `DeadEndPolicy`. -/
structure Story.Playable (story : Story) (policy : DeadEndPolicy) : Prop where
  nodup_ids : (story.scenes.map (·.id)).Nodup
  start_mem : story.start ∈ story.scenes.map (·.id)
  scenes : ∀ scene ∈ story.scenes, scene.Playable (story.scenes.map (·.id))
  /-- Only the strict policy minds scenes where a player gets stuck. -/
  choices_ne_nil : policy = .deny →
    ∀ scene ∈ story.scenes, scene.isEnd = false → scene.choices ≠ []

/-- The `Scene.targets` of a playable scene are ids of the story. -/
theorem Scene.Playable.mem_of_mem_targets {scene : Scene} {ids : List String}
    (h : scene.Playable ids) {id : String} (hid : id ∈ scene.targets) : id ∈ ids := by
  obtain ⟨choice, hchoice, heffect⟩ := Scene.mem_targets_iff.mp hid
  exact h.value_mem choice hchoice _ heffect rfl

/-! ### Choices and scenes without a fault -/

section Faultless

variable {index : Index} {scene : Scene}

/-- `Choice.unknownTarget?` finds nothing exactly when the index knows the value of every effect
that goes to a scene. -/
private theorem Choice.unknownTarget?_eq_none_iff {choice : Choice} :
    choice.unknownTarget? index = none ↔
      ∀ effect ∈ choice.effects, effect.kind = .gotoScene → index.knows effect.value = true := by
  simp only [unknownTarget?, List.find?_eq_none, List.mem_filterMap, Bool.not_eq_true',
    Bool.not_eq_false, Effect.target?_eq_some_iff]
  constructor
  · rintro h ⟨kind, id⟩ hmem rfl
    exact h id ⟨_, hmem, rfl⟩
  · rintro h id ⟨effect, hmem, rfl⟩
    exact h _ hmem rfl

/-- A choice has no `Choice.defect?` when none of the four tests finds one. -/
private theorem Choice.defect?_eq_none_iff {choice : Choice} {id : String} {before : List UInt32} :
    choice.defect? index id before = none ↔
      choice.number ≠ 0 ∧ choice.number ∉ before ∧ choice.effects ≠ [] ∧
        choice.unknownTarget? index = none := by
  rw [defect?]
  split
  · next h => simp [h]
  · next hzero =>
    split
    · next h => simp [List.contains_iff_mem.mp h]
    · next hnew =>
      rw [List.contains_iff_mem] at hnew
      split
      · next h => simp [List.isEmpty_iff.mp h]
      · next hsome =>
        rw [List.isEmpty_iff] at hsome
        simp [hzero, hnew, hsome]

/-- `choicesDefect?` finds nothing when each choice is faultless by itself, the choices have
different numbers, and none has the number of one before them. -/
theorem choicesDefect?_eq_none_iff {id : String} {before : List UInt32} {choices : List Choice} :
    choicesDefect? index id before choices = none ↔
      (∀ choice ∈ choices, choice.number ≠ 0 ∧ choice.effects ≠ [] ∧
        choice.unknownTarget? index = none) ∧
      (choices.map (·.number)).Nodup ∧ ∀ choice ∈ choices, choice.number ∉ before := by
  induction choices generalizing before with
  | nil => simp
  | cons choice rest ih =>
    rw [choicesDefect?_cons, Option.or_eq_none_iff, Choice.defect?_eq_none_iff, ih,
      List.map_cons, List.nodup_cons, List.forall_mem_cons, List.forall_mem_cons]
    -- the number of the choice in front is one of those before the rest
    have hbefore : (∀ other ∈ rest, other.number ∉ choice.number :: before) ↔
        choice.number ∉ rest.map (·.number) ∧ ∀ other ∈ rest, other.number ∉ before := by
      simp only [List.mem_cons, not_or, List.mem_map, not_exists, not_and, forall_and]
    rw [hbefore]
    constructor
    · rintro ⟨⟨hzero, hnew, heffects, htarget⟩, hrest, hnodup, hfresh, hold⟩
      exact ⟨⟨⟨hzero, heffects, htarget⟩, hrest⟩, ⟨hfresh, hnodup⟩, hnew, hold⟩
    · rintro ⟨⟨⟨hzero, heffects, htarget⟩, hrest⟩, ⟨hfresh, hnodup⟩, hnew, hold⟩
      exact ⟨⟨hzero, hnew, heffects, htarget⟩, hrest, hnodup, hfresh, hold⟩

/-- A scene has no `Scene.defect?` when it is `Scene.Playable` and, under the strict policy, no dead
end. -/
theorem Scene.defect?_eq_none_iff {scenes : List Scene} {policy : DeadEndPolicy}
    (h : Index.ofScenes scenes = .ok index) :
    scene.defect? index policy = none ↔ scene.Playable (scenes.map (·.id)) ∧
      (policy = .deny → scene.isEnd = false → scene.choices ≠ []) := by
  have htarget : ∀ choice : Choice, choice.unknownTarget? index = none ↔
      ∀ effect ∈ choice.effects, effect.kind = .gotoScene →
        effect.value ∈ scenes.map (·.id) := by
    intro choice
    simp only [Choice.unknownTarget?_eq_none_iff, Index.knows_of_ofScenes h]
  have hchoices : choicesDefect? index scene.id [] scene.choices = none ↔
      scene.Playable (scenes.map (·.id)) := by
    simp only [choicesDefect?_eq_none_iff, htarget]
    constructor
    · rintro ⟨hall, hnodup, -⟩
      exact ⟨fun c hc => (hall c hc).1, hnodup, fun c hc => (hall c hc).2.1,
        fun c hc => (hall c hc).2.2⟩
    · intro hplay
      exact ⟨fun c hc => ⟨hplay.number_ne_zero c hc, hplay.effects_ne_nil c hc,
        hplay.value_mem c hc⟩, hplay.nodup_numbers, by simp⟩
  rw [defect?, Option.or_eq_none_iff, hchoices]
  simp [isDeadEnd]

end Faultless

namespace Book

/-! ### Stories that become books -/

section OfStory

variable {policy : DeadEndPolicy} {story : Story} {book : Book}

/-- `Book.ofStory` makes books of playable stories only. -/
theorem playable_of_ofStory (h : ofStory policy story = .ok book) : story.Playable policy := by
  obtain ⟨index, hindex, hstart, hscenes, -⟩ := ofStory_eq_ok_iff.mp h
  have hfaultless := fun scene hscene => (Scene.defect?_eq_none_iff hindex).mp
    (hscenes scene hscene)
  exact
    { nodup_ids := Index.exists_ofScenes_iff.mp ⟨index, hindex⟩
      start_mem := (Index.knows_of_ofScenes hindex _).mp hstart
      scenes := fun scene hscene => (hfaultless scene hscene).1
      choices_ne_nil := fun hdeny scene hscene => (hfaultless scene hscene).2 hdeny }

/-- `Book.ofStory` makes a book of every playable story. -/
theorem exists_ofStory_of_playable (h : story.Playable policy) :
    ∃ book, ofStory policy story = .ok book := by
  obtain ⟨index, hindex⟩ := Index.exists_ofScenes_iff.mpr h.nodup_ids
  refine ⟨_, ofStory_eq_ok_iff.mpr ⟨index, hindex, ?_, fun scene hscene => ?_, rfl⟩⟩
  · exact (Index.knows_of_ofScenes hindex _).mpr h.start_mem
  · exact (Scene.defect?_eq_none_iff hindex).mpr
      ⟨h.scenes scene hscene, fun hdeny => h.choices_ne_nil hdeny scene hscene⟩

/-- `Book.ofStory` makes a book of a story exactly when it is `Story.Playable`, and the book has the
scenes of the story, unchanged and in their order and at least one, and starts where the story
starts. -/
theorem ofStory_succeeds_iff_playable :
    ((∃ book, ofStory policy story = .ok book) ↔ story.Playable policy) ∧
      ∀ book, ofStory policy story = .ok book →
        book.scenes = story.scenes ∧ book.start = story.start ∧ 1 ≤ book.scenes.length := by
  refine ⟨⟨fun ⟨_, h⟩ => playable_of_ofStory h, exists_ofStory_of_playable⟩, fun book h => ?_⟩
  have hscenes : book.scenes = story.scenes := scenes_of_ofStory h
  obtain ⟨scene, hscene, -⟩ := List.mem_map.mp (playable_of_ofStory h).start_mem
  rw [← hscenes] at hscene
  exact ⟨hscenes, start_of_ofStory h, List.length_pos_of_mem hscene⟩

end OfStory

/-! ### What a book keeps of the check -/

/-- A book as `Book.ofStory` leaves it: indexed, and with a start and targets among its scenes. -/
structure WellFormed (book : Book) : Prop where
  index_eq : Index.ofScenes book.scenes = .ok book.index
  start_mem : book.start ∈ book.scenes.map (·.id)
  scenes : ∀ scene ∈ book.scenes, scene.Playable (book.scenes.map (·.id))

/-- The books that `Book.ofStory` makes are well formed. -/
theorem wellFormed_of_ofStory {policy : DeadEndPolicy} {story : Story} {book : Book}
    (h : ofStory policy story = .ok book) : book.WellFormed := by
  have hplay := playable_of_ofStory h
  obtain ⟨index, hindex, -, -, rfl⟩ := ofStory_eq_ok_iff.mp h
  exact ⟨hindex, hplay.start_mem, hplay.scenes⟩

namespace WellFormed

variable {book : Book} (hbook : book.WellFormed)

include hbook

/-- `Book.get` gives the scene of the book that has the id. -/
theorem get_eq_ok_iff {id : String} {scene : Scene} :
    book.get id = .ok scene ↔ scene ∈ book.scenes ∧ scene.id = id := by
  rw [← Index.scene?_eq_some_iff hbook.index_eq, get]
  cases book.index.scene? book.scenes id <;> simp

/-- `Book.get` succeeds for the id of a scene. -/
theorem exists_get {id : String} (h : id ∈ book.scenes.map (·.id)) :
    ∃ scene ∈ book.scenes, scene.id = id ∧ book.get id = .ok scene := by
  obtain ⟨scene, hscene, hid⟩ := List.mem_map.mp h
  exact ⟨scene, hscene, hid, hbook.get_eq_ok_iff.mpr ⟨hscene, hid⟩⟩

/-- `Book.get` fails for any other id with `Error.sceneNotFound`. -/
theorem get_eq_error_iff {id : String} {error : Error} :
    book.get id = .error error ↔ id ∉ book.scenes.map (·.id) ∧ error = .sceneNotFound id := by
  rw [get]
  cases hfind : book.index.scene? book.scenes id with
  | some scene =>
    obtain ⟨hscene, hid⟩ := (Index.scene?_eq_some_iff hbook.index_eq).mp hfind
    exact iff_of_false nofun fun h => h.1 (List.mem_map.mpr ⟨scene, hscene, hid⟩)
  | none =>
    have hmem : id ∉ book.scenes.map (·.id) := by
      intro hmem
      obtain ⟨scene, hscene, hid⟩ := List.mem_map.mp hmem
      cases hfind.symm.trans ((Index.scene?_eq_some_iff hbook.index_eq).mpr ⟨hscene, hid⟩)
    simp [hmem, eq_comm]

end WellFormed

end Book

/-! ### A story with faults that do not count -/

/-- A story with a dead end, an end scene that lists a choice, a scene out of reach, and a choice
that breaks off between two scenes to go to. -/
def cellStory : Story :=
  ⟨"cell",
    [⟨"cell", "A cold cell.", false,
        [⟨2, "Search the straw", .empty, .ofList ["pin"], none, [⟨.setFlag, "pin"⟩]⟩,
          ⟨1, "Pick the lock", .ofList ["pin"], .empty, some "With what?",
            [⟨.gotoScene, "yard"⟩]⟩,
          ⟨3, "Jump", .empty, .empty, none,
            [⟨.gotoScene, "well"⟩, ⟨.setFlag, " "⟩, ⟨.gotoScene, "yard"⟩]⟩]⟩,
      ⟨"yard", "You are out.", true,
        [⟨1, "Go back", .empty, .empty, none, [⟨.gotoScene, "cell"⟩]⟩]⟩,
      ⟨"well", "It is deep.", false, []⟩,
      ⟨"attic", "Dust.", false,
        [⟨1, "Stay", .empty, .empty, none, [⟨.gotoScene, "attic"⟩, ⟨.gotoScene, "cell"⟩]⟩]⟩]⟩

/-- The book of `cellStory`. -/
def cellBook : Book :=
  ⟨"cell", cellStory.scenes, ⟨[("attic", 3), ("well", 2), ("yard", 1), ("cell", 0)]⟩,
    [.deadEnd "well", .unreachable "attic"]⟩

/-- The walk from the cell takes the yard and the cell twice and never comes to the attic. -/
private theorem trailFrom_cellStory :
    cellBook.index.trailFrom cellStory.scenes "cell" =
      ["cell", "yard", "well", "yard", "cell"] := by
  have hcell : cellBook.index.targets cellStory.scenes "cell" = ["yard", "well", "yard"] := by
    decide
  have hyard : cellBook.index.targets cellStory.scenes "yard" = ["cell"] := by decide
  have hwell : cellBook.index.targets cellStory.scenes "well" = [] := by decide
  simp [Index.trailFrom, Index.trail_cons_of_notMem, Index.trail_cons_of_mem, hcell, hyard, hwell]

theorem ofStory_cellStory : Book.ofStory .warn cellStory = .ok cellBook := by
  refine Book.ofStory_eq_ok_iff.mpr ⟨cellBook.index, by decide, by decide, by decide, ?_⟩
  rw [Book.warningsOf, show cellStory.start = "cell" from rfl, trailFrom_cellStory]
  decide

example : Book.ofStory .deny cellStory = .error (.deadEnd "well") := by decide

/-- The lenient policy finds `cellStory` playable. -/
theorem playable_cellStory :
    cellStory.Playable .warn ∧ cellBook.scenes = cellStory.scenes ∧
      cellBook.start = cellStory.start ∧ 1 ≤ cellBook.scenes.length :=
  ⟨Book.ofStory_succeeds_iff_playable.1.mp ⟨cellBook, ofStory_cellStory⟩,
    Book.ofStory_succeeds_iff_playable.2 cellBook ofStory_cellStory⟩

end Gamebook
