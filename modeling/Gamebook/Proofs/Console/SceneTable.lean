import Gamebook.Console.SceneTable
import Gamebook.Proofs.Book.Playable
import Mathlib.Data.List.Forall2
import Mathlib.Data.List.Nodup

/-!
# The rows of the table of scenes

The table of the scenes of a book has a row for each of them, and its last cell names the scenes to
which the choices lead, each where it comes first. The table is closed under these links: the check
of a story has found a scene for each of them, and the scene has a row of its own.

A dash stands for a lack of places. It is no mark apart from ids, so a scene whose one place has the
dash for its id has the same cell as a scene without places.

* `pairwise_idxOf_eraseDups`: erasing duplicates keeps the first occurrences in their order.
* `placesCell_eq_noPlaces_iff`: where the cell is the dash.
* `Book.rows_tell_scenes`: the rows of the table of a book.
-/

namespace Gamebook

/-! ### First occurrences -/

section FirstOccurrences

variable {α : Type} [BEq α] [LawfulBEq α] {l : List α} {a b : α}

/-- Members that a filter keeps come in the same order with and without it. -/
private theorem idxOf_lt_of_filter {p : α → Bool} (ha : p a = true) (hb : p b = true)
    (h : (l.filter p).idxOf a < (l.filter p).idxOf b) : l.idxOf a < l.idxOf b := by
  induction l with
  | nil => exact absurd h (by simp)
  | cons x rest ih =>
    by_cases hx : p x = true
    · rw [List.filter_cons_of_pos hx, List.idxOf_cons, List.idxOf_cons] at h
      rw [List.idxOf_cons, List.idxOf_cons]
      cases hxb : x == b with
      | true =>
        rw [hxb] at h
        exact absurd h (Nat.not_lt_zero _)
      | false =>
        rw [hxb] at h
        cases hxa : x == a with
        | true => exact Nat.succ_pos _
        | false =>
          rw [hxa] at h
          exact Nat.succ_lt_succ (ih (Nat.lt_of_succ_lt_succ h))
    · have hne : ∀ c, p c = true → (x == c) = false := by
        rintro c hc
        refine beq_eq_false_iff_ne.mpr ?_
        rintro rfl
        exact hx hc
      rw [List.filter_cons_of_neg hx] at h
      rw [List.idxOf_cons, List.idxOf_cons, hne a ha, hne b hb]
      exact Nat.succ_lt_succ (ih h)

/-- `List.eraseDups` leaves the members in the order in which they occur first. -/
private theorem pairwise_idxOf_eraseDups (l : List α) :
    l.eraseDups.Pairwise fun a b => l.idxOf a < l.idxOf b := by
  match l with
  | [] => exact List.Pairwise.nil
  | x :: rest =>
    rw [List.eraseDups_cons, List.pairwise_cons]
    have hkept : ∀ {c}, c ∈ (rest.filter fun d => !d == x).eraseDups → (!c == x) = true :=
      fun hc => (List.mem_filter.mp (List.mem_eraseDups.mp hc)).2
    have hother : ∀ {c}, (!c == x) = true → (x == c) = false := by
      intro c hc
      rw [BEq.comm]
      simpa using hc
    constructor
    · intro b hb
      rw [List.idxOf_cons, List.idxOf_cons, hother (hkept hb), BEq.rfl]
      exact Nat.succ_pos _
    · refine (pairwise_idxOf_eraseDups (rest.filter fun d => !d == x)).imp_of_mem ?_
      intro a b ha hb hlt
      have hrest : rest.idxOf a < rest.idxOf b :=
        idxOf_lt_of_filter (p := fun d => !d == x) (hkept ha) (hkept hb) hlt
      rw [List.idxOf_cons, List.idxOf_cons, hother (hkept ha), hother (hkept hb)]
      exact Nat.succ_lt_succ hrest
termination_by l.length
decreasing_by exact Nat.lt_succ_of_le (List.length_filter_le _ _)

end FirstOccurrences

/-- The places to which the choices of a scene lead: the values of the effects that go to a scene,
each once and in the order in which they occur first. -/
structure Scene.LeadsInOrder (scene : Scene) (places : List String) : Prop where
  nodup : places.Nodup
  mem_iff : ∀ id, id ∈ places ↔ ∃ choice ∈ scene.choices, ⟨.gotoScene, id⟩ ∈ choice.effects
  ordered : places.Pairwise fun a b => scene.targets.idxOf a < scene.targets.idxOf b

/-- `Scene.places` are the places in order. -/
theorem Scene.leadsInOrder_places (scene : Scene) : scene.LeadsInOrder scene.places where
  nodup := by
    refine (pairwise_idxOf_eraseDups scene.targets).imp ?_
    rintro a _ hlt rfl
    exact Nat.lt_irrefl _ hlt
  mem_iff id := Console.mem_places_iff.trans Scene.mem_targets_iff
  ordered := pairwise_idxOf_eraseDups scene.targets

namespace Console

/-! ### Cells and rows -/

/-- A text that joins more than one place has a comma in it. -/
private theorem intercalate_ne_noPlaces (a b : String) (rest : List String) :
    ", ".intercalate (a :: b :: rest) ≠ noPlaces := by
  intro h
  have hcomma : ',' ∈ (", ".intercalate (a :: b :: rest)).toList := by
    rw [String.toList_intercalate]
    simp [List.intercalate]
  rw [h] at hcomma
  exact absurd hcomma (by decide)

/-- `placesCell` is the dash exactly when the scene leads nowhere or to the scene that has the dash
for its id. -/
theorem placesCell_eq_noPlaces_iff {scene : Scene} :
    placesCell scene = noPlaces ↔ ∀ id ∈ scene.places, id = noPlaces := by
  have hnodup := scene.leadsInOrder_places.nodup
  rw [placesCell]
  cases hplaces : scene.places with
  | nil => simp
  | cons a rest =>
    cases rest with
    | nil => simp
    | cons b rest =>
      rw [hplaces] at hnodup
      simp only [List.isEmpty_cons, Bool.false_eq_true, if_false, intercalate_ne_noPlaces,
        false_iff]
      intro hall
      have hsame : a = b := (hall a (by simp)).trans (hall b (by simp)).symm
      exact (List.nodup_cons.mp hnodup).1 (hsame ▸ List.mem_cons_self)

/-- A row tells of a scene, given all rows of the table. -/
structure Tells (rows : List (List String)) (scene : Scene) (row : List String) : Prop where
  /-- The id, the mark of an end and the number of choices come before one more cell. -/
  cells : ∃ cell, row =
    [scene.id, if scene.isEnd then "yes" else "", toString scene.choices.length, cell]
  /-- The last cell is the dash where no effect goes to a scene, or to none but the one that has the
  dash for its id. -/
  dash_iff : row.getLast? = some "—" ↔ ∀ choice ∈ scene.choices, ∀ id,
    ⟨.gotoScene, id⟩ ∈ choice.effects → id = "—"
  /-- Where an effect goes to a scene, the last cell lists the places, and each has a row. -/
  places : (∃ choice ∈ scene.choices, ∃ id, ⟨.gotoScene, id⟩ ∈ choice.effects) →
    ∃ places, scene.LeadsInOrder places ∧ row.getLast? = some (", ".intercalate places) ∧
      ∀ id ∈ places, ∃ other ∈ rows, other.head? = some id

/-- The `sceneRow` of a scene tells of it, if all scenes to which it leads have rows. -/
theorem tells_sceneRow {scenes : List Scene} {scene : Scene}
    (h : scene.Playable (scenes.map (·.id))) :
    Tells (scenes.map sceneRow) scene (sceneRow scene) where
  cells := ⟨_, rfl⟩
  dash_iff := by
    have hcell : (sceneRow scene).getLast? = some (placesCell scene) := rfl
    rw [hcell, Option.some.injEq]
    refine placesCell_eq_noPlaces_iff.trans ?_
    simp only [scene.leadsInOrder_places.mem_iff, forall_exists_index, and_imp]
    exact ⟨fun hall choice hchoice id heffect => hall id choice hchoice heffect,
      fun hall id choice hchoice heffect => hall choice hchoice id heffect⟩
  places := by
    rintro ⟨choice, hchoice, id, heffect⟩
    have hmem : id ∈ scene.places :=
      (scene.leadsInOrder_places.mem_iff id).mpr ⟨choice, hchoice, heffect⟩
    refine ⟨scene.places, scene.leadsInOrder_places, ?_, fun place hplace => ?_⟩
    · have hcell : placesCell scene = ", ".intercalate scene.places :=
        if_neg fun hempty => List.ne_nil_of_mem hmem (List.isEmpty_iff.mp hempty)
      rw [← hcell]
      rfl
    · have hid := h.mem_of_mem_targets (mem_places_iff.mp hplace)
      obtain ⟨other, hother, rfl⟩ := List.mem_map.mp hid
      exact ⟨_, List.mem_map_of_mem hother, rfl⟩

end Console

namespace Book

variable {policy : DeadEndPolicy} {story : Story} {book : Book}

/-- The `sceneTable` of a book has one row for each scene of the story, in the order of the story,
and each `Tells` of its scene. -/
theorem rows_tell_scenes (h : ofStory policy story = .ok book) :
    List.Forall₂ (Console.Tells (Console.sceneTable book).rows) story.scenes
      (Console.sceneTable book).rows := by
  have hplayable := playable_of_ofStory h
  rw [Console.sceneTable, scenes_of_ofStory h, List.forall₂_map_right_iff, List.forall₂_same]
  exact fun scene hmem => Console.tells_sceneRow (hplayable.scenes scene hmem)

/-- The rows of `cellBook` tell of its scenes, one of which leads to the yard twice. -/
theorem rows_tell_cellStory : ofStory .warn cellStory = .ok cellBook ∧
    List.Forall₂ (Console.Tells (Console.sceneTable cellBook).rows) cellStory.scenes
      (Console.sceneTable cellBook).rows :=
  ⟨ofStory_cellStory, rows_tell_scenes ofStory_cellStory⟩

/-- A story whose last scene has the dash for its id. -/
def dashStory : Story :=
  ⟨"hall",
    [⟨"hall", "A dim hall.", false,
        [⟨1, "Go on", .empty, .empty, none, [⟨.gotoScene, "—"⟩]⟩]⟩,
      ⟨"—", "Nothing.", true, []⟩]⟩

/-- The book of `dashStory`. -/
def dashBook : Book := ⟨"hall", dashStory.scenes, ⟨[("—", 1), ("hall", 0)]⟩, []⟩

private theorem ofStory_dashStory : ofStory .warn dashStory = .ok dashBook := by
  refine ofStory_eq_ok_iff.mpr ⟨dashBook.index, by decide, by decide, by decide, ?_⟩
  have hhall : dashBook.index.targets dashStory.scenes "hall" = ["—"] := by decide
  have hdash : dashBook.index.targets dashStory.scenes "—" = [] := by decide
  have htrail : dashBook.index.trailFrom dashStory.scenes "hall" = ["—", "hall"] := by
    simp [Index.trailFrom, Index.trail_cons_of_notMem, hhall, hdash]
  rw [warningsOf, show dashStory.start = "hall" from rfl, htrail]
  decide

/-- The hall of `dashBook` leads to a scene, but its cell is the dash, like that of the scene that
leads nowhere. -/
theorem dash_cell_of_place : ofStory .warn dashStory = .ok dashBook ∧
    (Console.sceneTable dashBook).rows = [["hall", "", "1", "—"], ["—", "yes", "0", "—"]] ∧
    ∃ scene ∈ dashStory.scenes, scene.id = "hall" ∧
      ∃ choice ∈ scene.choices, ⟨.gotoScene, "—"⟩ ∈ choice.effects := by
  refine ⟨ofStory_dashStory, by decide +kernel, _, List.mem_cons_self, rfl, ?_⟩
  exact ⟨_, List.mem_cons_self, List.mem_cons_self⟩

end Book

end Gamebook
