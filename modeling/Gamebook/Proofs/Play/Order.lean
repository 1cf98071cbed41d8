import Gamebook.Proofs.Book.Order
import Gamebook.Proofs.Play.Listing

/-!
# Play and the order of scenes and choices

The order in which an author wrote a story never shows in play. A page is sorted by numbers, of
which a playable scene has no two alike, so the order of the choices is gone from it; a selection
finds the one choice with its number wherever it stands; and scenes are found by their ids. So a
selection does the same in the books of a story and of the reordered story, whoever makes it
(`Book.select_of_reordered`), and then so does every run.

* `Scene.Reordered.page_eq` and `Scene.Reordered.choice?_eq`: one scene.
* `Book.run_congr`: books with the same selections have the same runs.
* `Book.play_of_reordered`: the check, the look-ups and all runs of a reordered story.
-/

namespace Gamebook

namespace Scene.Reordered

variable {scene twin : Scene} {ids : List String}

/-- `Scene.choice?` finds the same choice in any order of the choices. -/
private theorem choice?_eq (h : scene.Reordered twin) (hplay : scene.Playable ids)
    (number : UInt32) : twin.choice? number = scene.choice? number := by
  refine Option.ext fun choice => ?_
  rw [(h.playable (fun _ hid => hid) hplay).choice?_eq_some_iff, hplay.choice?_eq_some_iff,
    h.choices_perm.mem_iff]

/-- `Scene.page` is the same in any order of the choices. -/
private theorem page_eq (h : scene.Reordered twin) (hplay : scene.Playable ids) (player : Player) :
    twin.page player = scene.page player := by
  have hperm : (twin.page player).entries.Perm (scene.page player).entries :=
    (Page.entries_perm.trans (h.choices_perm.map _)).trans Page.entries_perm.symm
  have hentries : (twin.page player).entries = (scene.page player).entries := by
    -- entries that may stand in either order have the same number, and so are the same
    refine hperm.eq_of_pairwise ?_ Page.pairwise_entries Page.pairwise_entries
    intro a b ha hb hab hba
    exact List.inj_on_of_nodup_map hplay.nodup_entries (hperm.mem_iff.mp ha) hb
      (UInt32.le_antisymm hab hba)
  calc twin.page player
      = ⟨twin.id, twin.text, twin.isEnd, (twin.page player).entries⟩ := rfl
    _ = ⟨scene.id, scene.text, scene.isEnd, (scene.page player).entries⟩ := by
      rw [h.id_eq, h.text_eq, h.isEnd_eq, hentries]

/-- `Book.selectIn` does the same in any order of the choices. -/
private theorem selectIn_eq (h : scene.Reordered twin) (hplay : scene.Playable ids)
    (player : Player) (number : UInt32) :
    Book.selectIn twin player number = Book.selectIn scene player number := by
  rw [Book.selectIn, Book.selectIn, h.isEnd_eq, h.choice?_eq hplay]

end Scene.Reordered

namespace Book

/-! ### Books with the same selections -/

section Congr

variable {book copy : Book}

/-- Where every `Book.select` does the same, every run is answered alike and leads to the same
state. -/
private theorem run_congr
    (h : ∀ player number, copy.select player number = book.select player number)
    (player : Player) (numbers : List UInt32) :
    copy.answers player numbers = book.answers player numbers ∧
      copy.after player numbers = book.after player numbers := by
  induction numbers generalizing player with
  | nil => exact ⟨rfl, rfl⟩
  | cons number rest ih =>
    obtain ⟨hanswers, hafter⟩ := ih (book.select player number).1
    rw [answers_cons, answers_cons, after_cons, after_cons, h]
    exact ⟨congrArg _ hanswers, hafter⟩

end Congr

/-! ### Reordered books -/

variable {policy : DeadEndPolicy} {story other : Story} {book copy : Book}

/-- `Book.select` does the same in the books of a story and of the reordered story. -/
private theorem select_of_reordered (hbook : ofStory policy story = .ok book)
    (hcopy : ofStory policy other = .ok copy) (h : story.Reordered other) (player : Player)
    (number : UInt32) : copy.select player number = book.select player number := by
  rw [select, select]
  rcases get_of_reordered hbook hcopy h player.scene with
    ⟨scene, hscene, twin, hget, htwin, hsame⟩ | ⟨hget, htwin⟩
  · rw [hget, htwin]
    exact hsame.selectIn_eq ((wellFormed_of_ofStory hbook).scenes scene hscene) player number
  · rw [hget, htwin]

/-- `Book.page` is the same in the books of a story and of the reordered story. -/
private theorem page_of_reordered (hbook : ofStory policy story = .ok book)
    (hcopy : ofStory policy other = .ok copy) (h : story.Reordered other) (player : Player) :
    copy.page player = book.page player := by
  rw [page, page]
  rcases get_of_reordered hbook hcopy h player.scene with
    ⟨scene, hscene, twin, hget, htwin, hsame⟩ | ⟨hget, htwin⟩
  · have hpage := hsame.page_eq ((wellFormed_of_ofStory hbook).scenes scene hscene) player
    rw [hget, htwin]
    exact congrArg Except.ok hpage
  · rw [hget, htwin]

/-- A story that is accepted is accepted when it is `Story.Reordered`, with its scenes, and the
choices of each scene, in any other order. The book warns of the same in some order, finds the same
scenes but for the order of their choices, and every run through it is answered alike, leads to the
same state and is shown the same page there. As the beginnings of a run are runs, all this holds
after every selection. -/
theorem play_of_reordered (hbook : ofStory policy story = .ok book)
    (h : story.Reordered other) :
    ∃ copy, ofStory policy other = .ok copy ∧
      copy.warnings.Perm book.warnings ∧
      (∀ id, (∃ scene ∈ book.scenes, ∃ twin, book.get id = .ok scene ∧ copy.get id = .ok twin ∧
          scene.Reordered twin) ∨
        book.get id = .error (.sceneNotFound id) ∧ copy.get id = .error (.sceneNotFound id)) ∧
      ∀ numbers, copy.answers copy.newPlayer numbers = book.answers book.newPlayer numbers ∧
        copy.after copy.newPlayer numbers = book.after book.newPlayer numbers ∧
        copy.page (copy.after copy.newPlayer numbers) =
          book.page (book.after book.newPlayer numbers) := by
  obtain ⟨copy, hcopy⟩ := exists_ofStory_of_playable (h.playable (playable_of_ofStory hbook))
  have hnew : copy.newPlayer = book.newPlayer := by
    rw [newPlayer, newPlayer, start_of_ofStory hbook, start_of_ofStory hcopy, h.start_eq]
  refine ⟨copy, hcopy, warnings_perm hbook hcopy h, get_of_reordered hbook hcopy h,
    fun numbers => ?_⟩
  obtain ⟨hanswers, hafter⟩ :=
    run_congr (select_of_reordered hbook hcopy h) book.newPlayer numbers
  rw [hnew, hafter]
  exact ⟨hanswers, rfl, page_of_reordered hbook hcopy h _⟩

/-- `cellStory` told backwards is played like `cellStory`. -/
theorem play_backwards_cellStory : ofStory .warn cellStory = .ok cellBook ∧
    cellStory.Reordered cellStory.backwards ∧
    ∃ copy, ofStory .warn cellStory.backwards = .ok copy ∧
      copy.warnings.Perm cellBook.warnings ∧
      (∀ id, (∃ scene ∈ cellBook.scenes, ∃ twin, cellBook.get id = .ok scene ∧
          copy.get id = .ok twin ∧ scene.Reordered twin) ∨
        cellBook.get id = .error (.sceneNotFound id) ∧
          copy.get id = .error (.sceneNotFound id)) ∧
      ∀ numbers, copy.answers copy.newPlayer numbers =
          cellBook.answers cellBook.newPlayer numbers ∧
        copy.after copy.newPlayer numbers = cellBook.after cellBook.newPlayer numbers ∧
        copy.page (copy.after copy.newPlayer numbers) =
          cellBook.page (cellBook.after cellBook.newPlayer numbers) :=
  ⟨ofStory_cellStory, cellStory.reordered_backwards,
    play_of_reordered ofStory_cellStory cellStory.reordered_backwards⟩

end Book

end Gamebook
