import Gamebook.Book.Index
import Mathlib.Data.List.Nodup

/-!
# Looking up scenes

An index is filed from a list of scenes front to back. It exists exactly when no two scenes have
the same id, and then looking up an id through it gives the scene that a search through the list
gives, which is the only one with that id.

* `Index.exists_ofScenes_iff` says which lists have an index.
* `Index.position?_of_fileAll` is the position of every id after a list was filed; the position
  the id had before counts only if no scene of the list has it.
* `Index.scene?_of_ofScenes` reduces the look-up to a search, and `find?_eq_some_iff_of_nodup`
  reduces the search to membership.
-/

namespace Gamebook

/-! ### Searches by a key -/

section Search

variable {α κ : Type} [BEq κ] [LawfulBEq κ] {key : α → κ}

/-- A search by a `key` that no two members share finds a member exactly when it has the key. -/
theorem find?_eq_some_iff_of_nodup {l : List α} (h : (l.map key).Nodup) {k : κ} {a : α} :
    l.find? (key · == k) = some a ↔ a ∈ l ∧ key a = k := by
  induction l with
  | nil => simp
  | cons b rest ih =>
    rw [List.map_cons, List.nodup_cons] at h
    rw [List.find?_cons, List.mem_cons]
    by_cases hb : key b = k
    · rw [beq_iff_eq.mpr hb]
      constructor
      · rintro ⟨⟩
        exact ⟨Or.inl rfl, hb⟩
      · rintro ⟨rfl | hmem, ha⟩
        · rfl
        · exact absurd (List.mem_map.mpr ⟨a, hmem, ha.trans hb.symm⟩) h.1
    · rw [beq_eq_false_iff_ne.mpr hb]
      refine (ih h.2).trans ⟨fun ⟨hmem, ha⟩ => ⟨Or.inr hmem, ha⟩, ?_⟩
      rintro ⟨rfl | hmem, ha⟩
      · exact absurd ha hb
      · exact ⟨hmem, ha⟩

/-- A search by a `key` fails exactly when no member has the key. -/
theorem find?_eq_none_iff_forall_ne {l : List α} {k : κ} :
    l.find? (key · == k) = none ↔ ∀ a ∈ l, key a ≠ k := by
  simp only [List.find?_eq_none, beq_iff_eq, ne_eq]

end Search

namespace Index

variable {index filed : Index} {scenes : List Scene} {position : Nat}

/-! ### Filing a list of scenes -/

/-- `Index.file` makes its own id known and no other. -/
theorem knows_file {id other : String} :
    (index.file id position).knows other = (decide (other = id) || index.knows other) := by
  by_cases h : other = id <;> simp [knows, position?_file, h]

/-- `Index.fileAll` takes a list of scenes exactly when no two of them have the same id and none has
an id that is filed already. -/
private theorem exists_fileAll_iff : (∃ filed, index.fileAll position scenes = .ok filed) ↔
    (scenes.map (·.id)).Nodup ∧ ∀ scene ∈ scenes, index.knows scene.id = false := by
  induction scenes generalizing index position with
  | nil => simp [fileAll]
  | cons scene rest ih =>
    rw [fileAll, List.map_cons, List.nodup_cons, List.forall_mem_cons]
    by_cases hknown : index.knows scene.id = true
    · simp [hknown]
    · rw [if_neg hknown, ih]
      have hid : (∀ other ∈ rest, (index.file scene.id position).knows other.id = false) ↔
          scene.id ∉ rest.map (·.id) ∧ ∀ other ∈ rest, index.knows other.id = false := by
        simp only [knows_file, Bool.or_eq_false_iff, decide_eq_false_iff_not, List.mem_map,
          not_exists, not_and, forall_and]
      rw [hid]
      constructor
      · rintro ⟨hrest, hnew, hold⟩
        exact ⟨⟨hnew, hrest⟩, Bool.not_eq_true _ ▸ hknown, hold⟩
      · rintro ⟨⟨hnew, hrest⟩, -, hold⟩
        exact ⟨hrest, hnew, hold⟩

/-- After `Index.fileAll` an id has the position of its scene in the list, and if no scene of the
list has the id, the position it had before. -/
private theorem position?_of_fileAll (h : index.fileAll position scenes = .ok filed) (id : String) :
    filed.position? id =
      ((scenes.findIdx? (·.id == id)).map (position + ·)).or (index.position? id) := by
  induction scenes generalizing index position with
  | nil =>
    cases h
    rfl
  | cons scene rest ih =>
    have hnodup := (exists_fileAll_iff.mp ⟨filed, h⟩).1
    rw [List.map_cons, List.nodup_cons] at hnodup
    rw [fileAll] at h
    split at h
    · exact absurd h (by simp)
    · rw [ih h, position?_file, List.findIdx?_cons]
      by_cases hid : id = scene.id
      · -- the scene in front has the id, so the search of the rest is in vain
        have hrest : rest.findIdx? (·.id == id) = none := by
          rw [List.findIdx?_eq_none_iff]
          intro other hmem
          refine beq_eq_false_iff_ne.mpr fun heq => hnodup.1 ?_
          exact List.mem_map.mpr ⟨other, hmem, heq.trans hid⟩
        rw [hrest, if_pos hid, hid]
        simp
      · have hne : (scene.id == id) = false := beq_eq_false_iff_ne.mpr (Ne.symm hid)
        rw [hne, if_neg hid, if_neg (by simp), Option.map_map]
        congr 2
        funext place
        simp only [Function.comp_apply]
        omega

/-! ### The index of a list of scenes -/

/-- `Index.ofScenes` takes a list of scenes exactly when no two of them have the same id. -/
theorem exists_ofScenes_iff :
    (∃ index, ofScenes scenes = .ok index) ↔ (scenes.map (·.id)).Nodup := by
  rw [ofScenes, exists_fileAll_iff]
  simp [knows]

/-- An `Index.ofScenes` gives the position at which a search of the list finds the id. -/
private theorem position?_of_ofScenes (h : ofScenes scenes = .ok index) (id : String) :
    index.position? id = scenes.findIdx? (·.id == id) := by
  rw [position?_of_fileAll h]
  simp

/-- An `Index.ofScenes` finds what a search of the list finds. -/
theorem scene?_of_ofScenes (h : ofScenes scenes = .ok index) (id : String) :
    index.scene? scenes id = scenes.find? (·.id == id) := by
  rw [scene?, position?_of_ofScenes h, List.find?_eq_bind_findIdx?_getElem?]

/-- An `Index.ofScenes` knows the ids of its scenes. -/
theorem knows_of_ofScenes (h : ofScenes scenes = .ok index) (id : String) :
    index.knows id = true ↔ id ∈ scenes.map (·.id) := by
  rw [knows, position?_of_ofScenes h, List.findIdx?_isSome, List.any_eq_true, List.mem_map]
  simp only [beq_iff_eq]

/-- An `Index.ofScenes` finds a scene exactly when it is in the list and has the id. -/
theorem scene?_eq_some_iff (h : ofScenes scenes = .ok index) {id : String} {scene : Scene} :
    index.scene? scenes id = some scene ↔ scene ∈ scenes ∧ scene.id = id := by
  rw [scene?_of_ofScenes h]
  exact find?_eq_some_iff_of_nodup (exists_ofScenes_iff.mp ⟨index, h⟩)

end Index

end Gamebook
