import Gamebook.Proofs.Book.Warnings
import Mathlib.Data.List.Perm.Basic

/-!
# The order of scenes and choices

An author may write the scenes of a story in any order, and the choices of each scene. Effects of
one choice are different: they are carried out in their order. Whatever the check says of a story
it says of a reordered one, because ids and numbers stand for the scenes and choices that have
them.

* `Scene.Reordered` and `Story.Reordered`: the same scene and the same story in another order.
* `Story.Reordered.playable`: whether a story can be played does not depend on the order.
* `Story.Reordered.path_eq`: nor do the paths through it.
* `Book.warnings_perm` and `Book.get_of_reordered`: a reordered book warns of the same scenes and
  finds the same scenes.
-/

namespace Gamebook

/-- The same scene with its choices in any order. -/
structure Scene.Reordered (scene twin : Scene) : Prop where
  id_eq : twin.id = scene.id
  text_eq : twin.text = scene.text
  isEnd_eq : twin.isEnd = scene.isEnd
  choices_perm : twin.choices.Perm scene.choices

/-- The same story with its scenes in any order, and the choices of each scene in any order. -/
structure Story.Reordered (story other : Story) : Prop where
  start_eq : other.start = story.start
  scenes : ∃ moved, story.scenes.Perm moved ∧ List.Forall₂ Scene.Reordered moved other.scenes

namespace Scene.Reordered

variable {scene twin : Scene}

theorem symm (h : scene.Reordered twin) : twin.Reordered scene :=
  ⟨h.id_eq.symm, h.text_eq.symm, h.isEnd_eq.symm, h.choices_perm.symm⟩

/-- `Scene.isDeadEnd` does not mind the order of the choices. -/
private theorem isDeadEnd_eq (h : scene.Reordered twin) : twin.isDeadEnd = scene.isDeadEnd := by
  rw [isDeadEnd, isDeadEnd, h.isEnd_eq, h.choices_perm.isEmpty_eq]

/-- `Scene.Playable` does not mind the order of the choices. -/
theorem playable (h : scene.Reordered twin) {ids others : List String}
    (hids : ∀ id ∈ ids, id ∈ others) (hplay : scene.Playable ids) : twin.Playable others where
  number_ne_zero choice hchoice :=
    hplay.number_ne_zero choice (h.choices_perm.mem_iff.mp hchoice)
  nodup_numbers := (h.choices_perm.map (·.number)).nodup_iff.mpr hplay.nodup_numbers
  effects_ne_nil choice hchoice :=
    hplay.effects_ne_nil choice (h.choices_perm.mem_iff.mp hchoice)
  value_mem choice hchoice effect heffect hkind :=
    hids _ (hplay.value_mem choice (h.choices_perm.mem_iff.mp hchoice) effect heffect hkind)

end Scene.Reordered

/-! ### Reordered stories -/

namespace Story.Reordered

variable {story other : Story}

theorem symm (h : story.Reordered other) : other.Reordered story := by
  obtain ⟨hstart, moved, hperm, hsame⟩ := h
  have hback : List.Forall₂ Scene.Reordered other.scenes moved :=
    (hsame.imp fun _ _ => Scene.Reordered.symm).flip
  -- choices first and scenes second is as good as scenes first and choices second
  have hcomp :
      Relation.Comp List.Perm (List.Forall₂ Scene.Reordered) other.scenes story.scenes := by
    rw [← List.forall₂_comp_perm_eq_perm_comp_forall₂]
    exact ⟨moved, hback, hperm.symm⟩
  exact ⟨hstart.symm, hcomp⟩

/-- Each scene of a story has its twin in the reordered story. -/
private theorem exists_twin (h : story.Reordered other) {scene : Scene}
    (hscene : scene ∈ story.scenes) : ∃ twin ∈ other.scenes, scene.Reordered twin := by
  obtain ⟨-, moved, hperm, hsame⟩ := h
  have hmoved : scene ∈ moved := hperm.mem_iff.mp hscene
  generalize other.scenes = twins at hsame ⊢
  clear hperm
  induction hsame with
  | nil => exact absurd hmoved List.not_mem_nil
  | cons hhead _ ih =>
    rcases List.mem_cons.mp hmoved with rfl | hrest
    · exact ⟨_, List.mem_cons_self, hhead⟩
    · obtain ⟨twin, htwin, hrest⟩ := ih hrest
      exact ⟨twin, List.mem_cons_of_mem _ htwin, hrest⟩

/-- What is listed of the scenes of a story, but not of the order of their choices, is listed of the
reordered story in some order. -/
private theorem perm_map_filter {α : Type} {p : Scene → Bool} {f : Scene → α}
    (h : story.Reordered other) (hp : ∀ scene twin, scene.Reordered twin → p twin = p scene)
    (hf : ∀ scene twin, scene.Reordered twin → f twin = f scene) :
    ((other.scenes.filter p).map f).Perm ((story.scenes.filter p).map f) := by
  obtain ⟨-, moved, hperm, hsame⟩ := h
  -- the same is listed of each scene and its twin, so only the order of the scenes shows
  have heq : (other.scenes.filter p).map f = (moved.filter p).map f := by
    generalize other.scenes = twins at hsame ⊢
    clear hperm
    induction hsame with
    | nil => rfl
    | cons hhead _ ih =>
      rw [List.filter_cons, List.filter_cons, hp _ _ hhead]
      split
      · rw [List.map_cons, List.map_cons, hf _ _ hhead, ih]
      · exact ih
  rw [heq]
  exact ((hperm.filter p).map f).symm

/-- A reordered story has the same ids. -/
private theorem ids_perm (h : story.Reordered other) :
    (other.scenes.map (·.id)).Perm (story.scenes.map (·.id)) := by
  have hall := h.perm_map_filter (p := fun _ => true) (f := (·.id)) (fun _ _ _ => rfl)
    fun _ _ hsame => hsame.id_eq
  rwa [List.filter_true, List.filter_true] at hall

/-- `Story.Playable` minds neither the order of the scenes nor that of their choices. -/
theorem playable (h : story.Reordered other) {policy : DeadEndPolicy}
    (hplay : story.Playable policy) : other.Playable policy where
  nodup_ids := h.ids_perm.nodup_iff.mpr hplay.nodup_ids
  start_mem := by
    rw [h.start_eq]
    exact h.ids_perm.mem_iff.mpr hplay.start_mem
  scenes twin htwin := by
    obtain ⟨scene, hscene, hsame⟩ := h.symm.exists_twin htwin
    exact hsame.symm.playable (fun _ hid => h.ids_perm.mem_iff.mpr hid)
      (hplay.scenes scene hscene)
  choices_ne_nil hdeny twin htwin hend hnone := by
    obtain ⟨scene, hscene, hsame⟩ := h.symm.exists_twin htwin
    refine hplay.choices_ne_nil hdeny scene hscene (hsame.isEnd_eq.trans hend) ?_
    have hperm := hsame.choices_perm
    rw [hnone] at hperm
    exact hperm.eq_nil

/-- `LeadsTo` does not mind the order of the scenes and choices. -/
private theorem leadsTo (h : story.Reordered other) {source target : String}
    (hlead : LeadsTo story.scenes source target) : LeadsTo other.scenes source target := by
  obtain ⟨scene, hscene, hid, choice, hchoice, heffect⟩ := hlead
  obtain ⟨twin, htwin, hsame⟩ := h.exists_twin hscene
  exact ⟨twin, htwin, hsame.id_eq.trans hid, choice, hsame.choices_perm.mem_iff.mpr hchoice,
    heffect⟩

/-- Each `Path` of a story is one of the reordered story, and the other way round. -/
private theorem path_eq (h : story.Reordered other) : Path other.scenes = Path story.scenes := by
  have hleads : LeadsTo other.scenes = LeadsTo story.scenes := by
    funext source target
    exact propext ⟨h.symm.leadsTo, h.leadsTo⟩
  rw [Path, Path, hleads]

end Story.Reordered

/-- A story with its scenes, and the choices of each scene, from the last to the first. -/
def Story.backwards (story : Story) : Story :=
  ⟨story.start,
    story.scenes.reverse.map fun scene => { scene with choices := scene.choices.reverse }⟩

/-- `Story.backwards` tells the same story in another order. -/
theorem Story.reordered_backwards (story : Story) : story.Reordered story.backwards := by
  refine ⟨rfl, story.scenes.reverse, (List.reverse_perm _).symm, ?_⟩
  refine List.forall₂_map_right_iff.mpr (List.forall₂_same.mpr fun scene _ => ?_)
  exact ⟨rfl, rfl, rfl, List.reverse_perm _⟩

/-! ### Reordered books -/

namespace Book

variable {policy : DeadEndPolicy} {story other : Story} {book copy : Book}

/-- The books of a story and of the reordered story warn of the same. -/
theorem warnings_perm (hbook : ofStory policy story = .ok book)
    (hcopy : ofStory policy other = .ok copy) (h : story.Reordered other) :
    copy.warnings.Perm book.warnings := by
  obtain ⟨index, hindex, -, -, rfl⟩ := ofStory_eq_ok_iff.mp hbook
  obtain ⟨twin, htwin, -, -, rfl⟩ := ofStory_eq_ok_iff.mp hcopy
  refine List.Perm.append ?_ ?_
  · exact h.perm_map_filter (fun _ _ hsame => hsame.isDeadEnd_eq)
      fun _ _ hsame => congrArg _ hsame.id_eq
  · rw [unreachableWarnings_eq hindex, unreachableWarnings_eq htwin]
    rw [h.start_eq, h.path_eq]
    exact h.perm_map_filter (fun _ _ hsame => by rw [hsame.id_eq])
      fun _ _ hsame => congrArg _ hsame.id_eq

/-- In the books of a story and of the reordered story `Book.get` finds the same scene under each
id, but for the order of its choices, or finds none. -/
theorem get_of_reordered (hbook : ofStory policy story = .ok book)
    (hcopy : ofStory policy other = .ok copy) (h : story.Reordered other) (id : String) :
    (∃ scene ∈ book.scenes, ∃ twin, book.get id = .ok scene ∧ copy.get id = .ok twin ∧
      scene.Reordered twin) ∨
    book.get id = .error (.sceneNotFound id) ∧ copy.get id = .error (.sceneNotFound id) := by
  have hwell := wellFormed_of_ofStory hbook
  have hwellCopy := wellFormed_of_ofStory hcopy
  have hscenes := scenes_of_ofStory hbook
  have hscenesCopy := scenes_of_ofStory hcopy
  by_cases hid : id ∈ book.scenes.map (·.id)
  · obtain ⟨scene, hscene, hsceneId, hget⟩ := hwell.exists_get hid
    obtain ⟨twin, htwin, hsame⟩ := h.exists_twin (hscenes ▸ hscene)
    refine Or.inl ⟨scene, hscene, twin, hget, hwellCopy.get_eq_ok_iff.mpr ⟨?_, ?_⟩, hsame⟩
    · exact hscenesCopy ▸ htwin
    · exact hsame.id_eq.trans hsceneId
  · refine Or.inr ⟨hwell.get_eq_error_iff.mpr ⟨hid, rfl⟩,
      hwellCopy.get_eq_error_iff.mpr ⟨fun hmem => hid ?_, rfl⟩⟩
    rw [hscenes]
    exact h.ids_perm.mem_iff.mp (hscenesCopy ▸ hmem)

end Book

end Gamebook
