import Gamebook.Proofs.Book.Playable

/-!
# The index of a book

The index of a book and its list of scenes say the same. Filing a list of scenes puts one entry in
front for each scene, with the place where the scene stands, so the index has the ids and the
places of the scenes and nothing else. Looking up an id is then as good as searching the list.

* `Index.entries_of_fileAll`: what filing a list adds to an index.
* `Index.position?_eq_some_iff`: the place of an id is the place of the scene that has it.
* `Book.index_agrees_with_scenes`: the agreement in both directions.
-/

namespace Gamebook

namespace Index

variable {index filed : Index} {scenes : List Scene} {position : Nat}

/-! ### Entries -/

/-- The ids of scenes with the places where the scenes stand, counted from a position on. -/
private def placesFrom (position : Nat) (scenes : List Scene) : List (String × Nat) :=
  (scenes.zipIdx position).map fun place => (place.1.id, place.2)

private theorem placesFrom_cons {scene : Scene} {rest : List Scene} :
    placesFrom position (scene :: rest) =
      (scene.id, position) :: placesFrom (position + 1) rest := by
  rw [placesFrom, List.zipIdx_cons, List.map_cons, placesFrom]

/-- `Index.fileAll` puts an entry in front for each scene of the list. -/
private theorem entries_of_fileAll (h : index.fileAll position scenes = .ok filed) :
    filed.entries = (placesFrom position scenes).reverse ++ index.entries := by
  induction scenes generalizing index position with
  | nil =>
    cases h
    rfl
  | cons scene rest ih =>
    rw [fileAll] at h
    split at h
    · exact absurd h (by simp)
    · have hrest := ih h
      rw [hrest, placesFrom_cons, List.reverse_cons, List.append_assoc]
      rfl

/-- The entries of an `Index.ofScenes` are the ids and the places of the scenes. -/
private theorem entries_of_ofScenes (h : ofScenes scenes = .ok index) :
    index.entries = (placesFrom 0 scenes).reverse := by
  have hentries := entries_of_fileAll h
  rwa [show empty.entries = [] from rfl, List.append_nil] at hentries

/-- An `Index.ofScenes` has an entry for an id and a place exactly when the scene at the place has
the id. -/
theorem mem_entries_iff (h : ofScenes scenes = .ok index) {id : String} {place : Nat} :
    (id, place) ∈ index.entries ↔ ∃ scene, scenes[place]? = some scene ∧ scene.id = id := by
  rw [entries_of_ofScenes h, List.mem_reverse, placesFrom, List.mem_map]
  constructor
  · rintro ⟨⟨scene, i⟩, hmem, heq⟩
    obtain ⟨rfl, rfl⟩ := Prod.mk.inj heq
    exact ⟨scene, List.mem_zipIdx_iff_getElem?.mp hmem, rfl⟩
  · rintro ⟨scene, hscene, rfl⟩
    exact ⟨(scene, place), List.mem_zipIdx_iff_getElem?.mpr hscene, rfl⟩

/-- `Index.ofScenes` files no id twice. -/
private theorem nodup_keys_of_ofScenes (h : ofScenes scenes = .ok index) :
    (index.entries.map Prod.fst).Nodup := by
  have hkeys : index.entries.map Prod.fst = (scenes.map (·.id)).reverse := by
    rw [entries_of_ofScenes h, List.map_reverse, placesFrom, List.map_map]
    refine congrArg List.reverse ?_
    calc (scenes.zipIdx 0).map (Prod.fst ∘ fun place => (place.1.id, place.2))
        = ((scenes.zipIdx 0).map Prod.fst).map (·.id) := by rw [List.map_map]; rfl
      _ = scenes.map (·.id) := by rw [List.zipIdx_map_fst]
  rw [hkeys, List.nodup_reverse]
  exact exists_ofScenes_iff.mp ⟨index, h⟩

/-! ### Places -/

/-- `Index.position?` is the place of the scene that has the id. -/
private theorem position?_eq_some_iff (h : ofScenes scenes = .ok index) {id : String}
    {place : Nat} :
    index.position? id = some place ↔ ∃ scene, scenes[place]? = some scene ∧ scene.id = id := by
  rw [← mem_entries_iff h, position?, List.lookup_eq_some_iff]
  constructor
  · rintro ⟨before, after, heq, -⟩
    rw [heq]
    exact List.mem_append_right _ List.mem_cons_self
  · intro hmem
    obtain ⟨before, after, heq⟩ := List.append_of_mem hmem
    refine ⟨before, after, heq, fun entry hentry => bne_iff_ne.mpr ?_⟩
    -- an entry for the id further in front would be filed under it a second time
    rintro rfl
    have hnodup := nodup_keys_of_ofScenes h
    rw [heq, List.map_append, List.map_cons, List.nodup_append] at hnodup
    exact hnodup.2.2 entry.1 (List.mem_map_of_mem hentry) entry.1 List.mem_cons_self rfl

end Index

namespace Book

/-! ### The index and the scenes -/

/-- In a book the index and the list of scenes agree. `Book.get` gives the scene of the book that
has the id, which is what a search of the list gives, and fails for all other ids. Each place that
is filed is the place of a scene with the id, and there are as many ids as scenes. -/
theorem index_agrees_with_scenes {policy : DeadEndPolicy} {story : Story} {book : Book}
    (hbook : ofStory policy story = .ok book) :
    (∀ id scene, book.get id = .ok scene ↔ scene ∈ book.scenes ∧ scene.id = id) ∧
    (∀ id error, book.get id = .error error ↔
      id ∉ book.scenes.map (·.id) ∧ error = .sceneNotFound id) ∧
    (∀ id, book.get id =
      (book.scenes.find? (·.id == id)).elim (.error (.sceneNotFound id)) .ok) ∧
    (∀ id place, book.index.position? id = some place ↔
      ∃ scene, book.scenes[place]? = some scene ∧ scene.id = id) ∧
    book.index.entries.length = book.scenes.length ∧
    (book.index.entries.map Prod.fst).Nodup := by
  have hwell := wellFormed_of_ofStory hbook
  have hindex := hwell.index_eq
  refine ⟨fun id scene => hwell.get_eq_ok_iff, fun id error => hwell.get_eq_error_iff,
    fun id => ?_, fun id place => Index.position?_eq_some_iff hindex,
    Index.length_entries_of_ofScenes hindex, Index.nodup_keys_of_ofScenes hindex⟩
  rw [get, Index.scene?_of_ofScenes hindex]
  cases book.scenes.find? (·.id == id) <;> rfl

/-- The index of `cellBook` has its four scenes, and no cellar. -/
theorem index_agrees_cellBook : ofStory .warn cellStory = .ok cellBook ∧
    (∃ scene, cellBook.get "well" = .ok scene ∧ scene ∈ cellBook.scenes) ∧
    cellBook.get "cellar" = .error (.sceneNotFound "cellar") ∧
    cellBook.index.position? "well" = some 2 ∧ cellBook.index.entries.length = 4 := by
  obtain ⟨hok, herror, -, hplace, hlength, -⟩ := index_agrees_with_scenes ofStory_cellStory
  refine ⟨ofStory_cellStory, ?_, (herror _ _).mpr ⟨by decide, rfl⟩,
    (hplace _ _).mpr ⟨_, rfl, rfl⟩, hlength⟩
  have hwell : cellBook.get "well" = .ok ⟨"well", "It is deep.", false, []⟩ :=
    (hok _ _).mpr ⟨by decide, rfl⟩
  exact ⟨_, hwell, ((hok _ _).mp hwell).1⟩

end Book

end Gamebook
