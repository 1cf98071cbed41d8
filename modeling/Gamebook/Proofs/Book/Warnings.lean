import Gamebook.Proofs.Book.Playable
import Gamebook.Proofs.Book.Trail

/-!
# Warnings

A path leads from scene to scene along the effects of choices that go to scenes. What a choice
requires does not matter, nor whether a scene ends the story. In a book, paths are what the walk
over its index follows, so the warnings of a book name first its dead ends and then the scenes to
which no path leads from the start.

* `Index.leads_iff`: an index of a list of scenes leads where their effects lead.
* `Book.deadEndWarnings_eq`, `Book.unreachableWarnings_eq`: the two kinds of warnings.
* `Book.deadEnd_mem_warnings_iff`, `Book.unreachable_mem_warnings_iff`: one warning.
* `Book.warnings_eq_deadEnds_append_unreachables`: all warnings, none of them twice.
-/

namespace Gamebook

/-! ### Paths -/

/-- Some effect of some choice of the scene with the first id goes to the second id. -/
def LeadsTo (scenes : List Scene) (source target : String) : Prop :=
  ∃ scene ∈ scenes, scene.id = source ∧
    ∃ choice ∈ scene.choices, ⟨.gotoScene, target⟩ ∈ choice.effects

/-- A chain of scenes, perhaps empty, each of which `LeadsTo` the next. -/
def Path (scenes : List Scene) : String → String → Prop := Relation.ReflTransGen (LeadsTo scenes)

/-- An `Index.ofScenes` leads where the effects of the scenes lead. -/
private theorem Index.leads_iff {scenes : List Scene} {index : Index}
    (h : ofScenes scenes = .ok index) {source target : String} :
    index.Leads scenes source target ↔ LeadsTo scenes source target := by
  rw [Index.Leads, targets]
  constructor
  · intro hmem
    cases hfind : index.scene? scenes source with
    | none => simp [hfind] at hmem
    | some scene =>
      rw [hfind, Option.map_some, Option.getD_some, Scene.mem_targets_iff] at hmem
      obtain ⟨hscene, hid⟩ := (scene?_eq_some_iff h).mp hfind
      exact ⟨scene, hscene, hid, hmem⟩
  · rintro ⟨scene, hscene, hid, hmem⟩
    rw [(scene?_eq_some_iff h).mpr ⟨hscene, hid⟩, Option.map_some, Option.getD_some]
    exact Scene.mem_targets_iff.mpr hmem

/-- `Index.trailFrom` takes the ids to which there is a `Path`. -/
private theorem Index.mem_trailFrom_iff_path {scenes : List Scene} {index : Index}
    (h : ofScenes scenes = .ok index) {start id : String} :
    id ∈ index.trailFrom scenes start ↔ Path scenes start id := by
  have hleads : index.Leads scenes = LeadsTo scenes := by
    funext source target
    exact propext (leads_iff h)
  rw [mem_trailFrom_iff, hleads, Path]

namespace Book

/-! ### The two kinds of warnings -/

variable {scenes : List Scene}

/-- `deadEndWarnings` has every scene that offers nothing and does not end the story. -/
private theorem deadEndWarnings_eq : deadEndWarnings scenes =
    (scenes.filter fun scene => scene.isEnd = false ∧ scene.choices = []).map
      fun scene => .deadEnd scene.id := by
  rw [deadEndWarnings]
  congr 1
  refine List.filter_congr fun scene _ => ?_
  rw [Scene.isDeadEnd, Bool.eq_iff_iff]
  simp

open Classical in
/-- `unreachableWarnings` has every scene to which there is no `Path` from the start. -/
theorem unreachableWarnings_eq {index : Index} (h : Index.ofScenes scenes = .ok index)
    {start : String} : unreachableWarnings (index.trailFrom scenes start) scenes =
      (scenes.filter fun scene => ¬Path scenes start scene.id).map
        fun scene => .unreachable scene.id := by
  rw [unreachableWarnings]
  congr 1
  refine List.filter_congr fun scene _ => ?_
  rw [Bool.eq_iff_iff, Bool.not_eq_true', ← Bool.not_eq_true, List.contains_iff_mem,
    Index.mem_trailFrom_iff_path h, decide_eq_true_iff]

/-- Warnings of one kind about some scenes of a list are different when the ids are. -/
private theorem nodup_map_warning_filter {warning : String → Warning} {p : Scene → Bool}
    (hinj : Function.Injective warning) (h : (scenes.map (·.id)).Nodup) :
    ((scenes.filter p).map fun scene => warning scene.id).Nodup := by
  have hfilter : ((scenes.filter p).map (·.id)).Nodup := h.sublist (List.filter_sublist.map _)
  simpa only [List.map_map, Function.comp_def] using hfilter.map hinj

/-! ### The warnings of a book -/

variable {policy : DeadEndPolicy} {story : Story} {book : Book}

/-- A book has a `Warning.deadEnd` exactly when one of its scenes has the id, offers nothing and
does not end the story. -/
theorem deadEnd_mem_warnings_iff (h : ofStory policy story = .ok book) {id : String} :
    .deadEnd id ∈ book.warnings ↔
      ∃ scene ∈ book.scenes, scene.id = id ∧ scene.isEnd = false ∧ scene.choices = [] := by
  obtain ⟨index, -, -, -, rfl⟩ := ofStory_eq_ok_iff.mp h
  rw [warningsOf, List.mem_append, deadEndWarnings_eq, unreachableWarnings]
  simp only [List.mem_map, List.mem_filter, decide_eq_true_iff, Warning.deadEnd.injEq,
    reduceCtorEq, and_false, exists_false, or_false]
  refine exists_congr fun scene => ?_
  rw [and_assoc, and_comm (a := scene.id = id)]

/-- A book has a `Warning.unreachable` exactly when it has a scene with the id and no `Path` leads
there from the start. -/
theorem unreachable_mem_warnings_iff (h : ofStory policy story = .ok book) {id : String} :
    .unreachable id ∈ book.warnings ↔
      id ∈ book.scenes.map (·.id) ∧ ¬Path book.scenes book.start id := by
  obtain ⟨index, hindex, -, -, rfl⟩ := ofStory_eq_ok_iff.mp h
  rw [warningsOf, List.mem_append, deadEndWarnings, unreachableWarnings_eq hindex]
  simp only [List.mem_map, List.mem_filter, decide_eq_true_iff, Warning.unreachable.injEq,
    reduceCtorEq, and_false, exists_false, false_or]
  constructor
  · rintro ⟨scene, ⟨hmem, hpath⟩, rfl⟩
    exact ⟨⟨scene, hmem, rfl⟩, hpath⟩
  · rintro ⟨⟨scene, hmem, rfl⟩, hpath⟩
    exact ⟨scene, ⟨hmem, hpath⟩, rfl⟩

open Classical in
/-- A book has a `Warning.deadEnd` for each scene that offers nothing and does not end the story,
and then a `Warning.unreachable` for each scene to which no `Path` leads from the start, both in the
order of the story, and gives no warning twice. -/
theorem warnings_eq_deadEnds_append_unreachables (h : ofStory policy story = .ok book) :
    book.warnings =
        ((story.scenes.filter fun scene => scene.isEnd = false ∧ scene.choices = []).map
          fun scene => .deadEnd scene.id) ++
        ((story.scenes.filter fun scene => ¬Path story.scenes story.start scene.id).map
          fun scene => .unreachable scene.id) ∧
      book.warnings.Nodup := by
  have hnodup := (playable_of_ofStory h).nodup_ids
  obtain ⟨index, hindex, -, -, rfl⟩ := ofStory_eq_ok_iff.mp h
  refine ⟨congrArg₂ _ deadEndWarnings_eq (unreachableWarnings_eq hindex), ?_⟩
  refine List.nodup_append.mpr ⟨?_, ?_, ?_⟩
  · exact nodup_map_warning_filter (fun _ _ => Warning.deadEnd.inj) hnodup
  · exact nodup_map_warning_filter (fun _ _ => Warning.unreachable.inj) hnodup
  · intro a ha b hb
    obtain ⟨-, -, rfl⟩ := List.mem_map.mp ha
    obtain ⟨-, -, rfl⟩ := List.mem_map.mp hb
    exact Warning.noConfusion

open Classical in
/-- `cellBook` warns of its dead end and of the scene that only an effect of its own goes to. -/
theorem warnings_cellBook : ofStory .warn cellStory = .ok cellBook ∧
    [Warning.deadEnd "well", Warning.unreachable "attic"] =
        ((cellStory.scenes.filter fun scene => scene.isEnd = false ∧ scene.choices = []).map
          fun scene => .deadEnd scene.id) ++
        ((cellStory.scenes.filter fun scene => ¬Path cellStory.scenes "cell" scene.id).map
          fun scene => .unreachable scene.id) ∧
      cellBook.warnings.Nodup :=
  ⟨ofStory_cellStory, warnings_eq_deadEnds_append_unreachables ofStory_cellStory⟩

end Book

end Gamebook
