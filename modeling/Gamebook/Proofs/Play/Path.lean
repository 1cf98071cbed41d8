import Gamebook.Proofs.Book.Warnings
import Gamebook.Proofs.Play.Run

/-!
# Runs follow paths

The warnings of a book are found before anybody plays it, by a walk that asks neither for flags
nor for numbers. They hold of play all the same. A selection leaves the player in place or leads
along an effect of the scene where the player stands (`Book.WellFormed.leadsTo_select`), also where
a list of effects breaks off after it went somewhere. So every run follows a path from the start
(`Book.WellFormed.path_of_reachable`), and what no path reaches no run reaches.

* `Book.scene_not_unreachable`: no player stands where a warning says that nobody comes.
* `Book.warnings_sound_of_reachable`: with it, a page without an end and without choices is shown
  exactly where a warning says so.
-/

namespace Gamebook

/-- A `Scene.page` lists nothing exactly when the scene offers nothing. -/
private theorem Page.entries_eq_nil_iff {scene : Scene} {player : Player} :
    (scene.page player).entries = [] ↔ scene.choices = [] := by
  rw [← List.length_eq_zero_iff, Page.entries_perm.length_eq, List.length_map,
    List.length_eq_zero_iff]

namespace Book

variable {book : Book} {player : Player}

/-! ### Paths of players -/

namespace WellFormed

variable (hbook : book.WellFormed)

include hbook

/-- A `Book.select` leaves a player in place or leads to where the scene of the player `LeadsTo`. -/
private theorem leadsTo_select (h : player.scene ∈ book.scenes.map (·.id)) (number : UInt32) :
    (book.select player number).1.scene = player.scene ∨
      LeadsTo book.scenes player.scene (book.select player number).1.scene := by
  obtain ⟨scene, hmem, hid, hget⟩ := hbook.exists_get h
  refine (scene_select hget number).imp_right fun htarget => ?_
  exact ⟨scene, hmem, hid, Scene.mem_targets_iff.mp htarget⟩

/-- There is a `Path` from the start to wherever a run leads. -/
theorem path_of_reachable (hplayer : book.Reachable player) :
    Path book.scenes book.start player.scene := by
  refine hplayer.induction (P := fun p => Path book.scenes book.start p.scene) ?_
    Relation.ReflTransGen.refl
  intro p number hreach hpath
  -- a path goes on only from scenes of the book, and a reachable player stands in one
  obtain ⟨scene, hscene, hid, -⟩ := hbook.exists_get_of_reachable hreach
  rcases hbook.leadsTo_select (List.mem_map.mpr ⟨scene, hscene, hid⟩) number with hstay | hlead
  · rw [hstay]
    exact hpath
  · exact hpath.tail hlead

end WellFormed

/-! ### Warnings and play -/

variable {policy : DeadEndPolicy} {story : Story}

/-- No run leads to the scene of a `Warning.unreachable`. -/
theorem scene_not_unreachable (hbook : ofStory policy story = .ok book)
    (hplayer : book.Reachable player) : .unreachable player.scene ∉ book.warnings := by
  intro hwarning
  have hnone := ((unreachable_mem_warnings_iff hbook).mp hwarning).2
  exact hnone ((wellFormed_of_ofStory hbook).path_of_reachable hplayer)

/-- The page of a player who stands in a scene of the book shows a dead end exactly when there is a
`Warning.deadEnd` for the scene. -/
private theorem shows_deadEnd_iff (hbook : ofStory policy story = .ok book) {scene : Scene}
    (hget : book.get player.scene = .ok scene) :
    (scene.page player).isEnd = false ∧ (scene.page player).entries = [] ↔
      .deadEnd player.scene ∈ book.warnings := by
  have hfind := (wellFormed_of_ofStory hbook).get_eq_ok_iff.mp hget
  rw [Page.entries_eq_nil_iff, deadEnd_mem_warnings_iff hbook]
  constructor
  · intro hdead
    exact ⟨scene, hfind.1, hfind.2, hdead⟩
  · rintro ⟨other, hother, hid, hdead⟩
    -- the warning names a scene by its id, which only the scene of the player has
    have hsame := (wellFormed_of_ofStory hbook).get_eq_ok_iff.mpr ⟨hother, hid⟩
    cases hsame.symm.trans hget
    exact hdead

/-- Under `DeadEndPolicy.deny` no book has a `Warning.deadEnd`. -/
private theorem deadEnd_not_mem_of_deny (hbook : ofStory .deny story = .ok book) (id : String) :
    .deadEnd id ∉ book.warnings := by
  intro hwarning
  obtain ⟨scene, hmem, -, hend, hnone⟩ := (deadEnd_mem_warnings_iff hbook).mp hwarning
  rw [scenes_of_ofStory hbook] at hmem
  exact (playable_of_ofStory hbook).choices_ne_nil rfl scene hmem hend hnone

/-- In every reachable state of a book there is no `Warning.unreachable` for the scene of the
player, and its page is no end and lists nothing exactly when there is a `Warning.deadEnd` for it.
Under the strict policy every page is an end or lists a choice. -/
theorem warnings_sound_of_reachable (hbook : ofStory policy story = .ok book)
    (hplayer : book.Reachable player) :
    .unreachable player.scene ∉ book.warnings ∧
      ∃ page, book.page player = .ok page ∧
        (page.isEnd = false ∧ page.entries = [] ↔ .deadEnd player.scene ∈ book.warnings) ∧
        (policy = .deny → page.isEnd = true ∨ page.entries ≠ []) := by
  obtain ⟨scene, -, -, hget⟩ :=
    (wellFormed_of_ofStory hbook).exists_get_of_reachable hplayer
  have hdead := shows_deadEnd_iff hbook hget
  refine ⟨scene_not_unreachable hbook hplayer, scene.page player, page_of_get hget, hdead, ?_⟩
  rintro rfl
  by_contra hstuck
  rw [not_or, not_not, Bool.not_eq_true] at hstuck
  exact deadEnd_not_mem_of_deny hbook _ (hdead.mp hstuck)

/-! ### A story without faults -/

/-- The part of `cellStory` in which nobody gets stuck. -/
def yardStory : Story :=
  ⟨"cell",
    [⟨"cell", "A cold cell.", false,
        [⟨1, "Pick the lock", .ofList ["pin"], .empty, some "With what?",
            [⟨.gotoScene, "yard"⟩]⟩]⟩,
      ⟨"yard", "You are out.", true, []⟩]⟩

/-- The strict policy accepts `yardStory`. -/
private theorem exists_ofStory_yardStory : ∃ book, ofStory .deny yardStory = .ok book := by
  refine exists_ofStory_of_playable ⟨by decide, by decide, ?_, by decide⟩
  intro scene hscene
  refine ⟨?_, ?_, ?_, ?_⟩ <;> revert scene <;> decide

/-- The player of `cellBook` who jumped stands in the dead end that is warned of, and the strict
policy leaves no such place in `yardStory`, where the start lists a choice. -/
theorem warnings_sound_of_jump :
    (ofStory .warn cellStory = .ok cellBook ∧
      cellBook.Reachable ⟨"well", .ofList ["pin"]⟩ ∧
      .unreachable "well" ∉ cellBook.warnings ∧
      ∃ page, cellBook.page ⟨"well", .ofList ["pin"]⟩ = .ok page ∧
        (page.isEnd = false ∧ page.entries = [] ↔ .deadEnd "well" ∈ cellBook.warnings) ∧
        (DeadEndPolicy.warn = .deny → page.isEnd = true ∨ page.entries ≠ [])) ∧
    ∃ book, ofStory .deny yardStory = .ok book ∧ book.Reachable book.newPlayer ∧
      .unreachable book.start ∉ book.warnings ∧
      ∃ page, book.page book.newPlayer = .ok page ∧
        (page.isEnd = false ∧ page.entries = [] ↔ .deadEnd book.start ∈ book.warnings) ∧
        (DeadEndPolicy.deny = .deny → page.isEnd = true ∨ page.entries ≠ []) := by
  have hwell : cellBook.Reachable ⟨"well", .ofList ["pin"]⟩ := ⟨[2, 3], by decide⟩
  obtain ⟨book, hbook⟩ := exists_ofStory_yardStory
  have hnew : book.Reachable book.newPlayer := ⟨[], rfl⟩
  exact ⟨⟨ofStory_cellStory, hwell, warnings_sound_of_reachable ofStory_cellStory hwell⟩,
    book, hbook, hnew, warnings_sound_of_reachable hbook hnew⟩

end Book

end Gamebook
