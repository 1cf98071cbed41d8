import Gamebook.Book.Index

/-!
# Trails

A trail is the record of a walk through a list of scenes. Ids wait in a queue; the id in front
is taken, and when it is taken for the first time the targets of its scene join the queue. The
walk ends when the queue is empty. What choices require does not matter, nor whether a scene
ends the story.

The walk ends because an id that is taken for the first time either has no scene, and then the
queue shrinks, or is one of the ids of the index, and then fewer of these are left.

* `Index.trail_cons_of_mem`, `Index.trail_cons_of_notMem`: one step of the walk.
-/

namespace Gamebook

namespace Index

/-- The `Scene.targets` of the scene that the index finds under an id. -/
def targets (index : Index) (scenes : List Scene) (id : String) : List String :=
  ((index.scene? scenes id).map Scene.targets).getD []

/-- How many ids of the index are not among the ids taken. -/
def untaken (index : Index) (taken : List String) : Nat :=
  index.entries.countP fun entry => !taken.contains entry.1

/-- Taking an id leaves no more `Index.untaken` ids than there were. -/
private theorem untaken_cons_le (index : Index) (taken : List String) (id : String) :
    index.untaken (id :: taken) ≤ index.untaken taken := by
  refine List.countP_mono_left fun entry _ h => ?_
  simp only [List.contains_cons, Bool.not_or, Bool.and_eq_true] at h
  exact h.2

/-- What `Index.position?` finds stands in the list of entries. -/
theorem mem_entries_of_position? {index : Index} {id : String} {position : Nat}
    (h : index.position? id = some position) : (id, position) ∈ index.entries := by
  obtain ⟨entries⟩ := index
  simp only [position?] at h
  induction entries with
  | nil => simp at h
  | cons entry rest ih =>
    obtain ⟨other, place⟩ := entry
    rw [List.lookup_cons] at h
    split at h
    · next heq =>
      cases h
      simp [eq_of_beq heq]
    · exact List.mem_cons_of_mem _ (ih h)

/-- Taking an id of the index for the first time leaves fewer `Index.untaken` ids. -/
private theorem untaken_cons_lt {index : Index} {taken : List String} {id : String} {position : Nat}
    (h : index.position? id = some position) (hnew : taken.contains id = false) :
    index.untaken (id :: taken) < index.untaken taken := by
  have hmem := mem_entries_of_position? h
  obtain ⟨entries⟩ := index
  simp only [untaken] at *
  clear h
  induction entries with
  | nil => simp at hmem
  | cons entry rest ih =>
    have hle := untaken_cons_le ⟨rest⟩ taken id
    simp only [untaken] at hle
    simp only [List.countP_cons, List.contains_cons, Bool.not_or, Bool.and_eq_true] at hle ⊢
    rcases List.mem_cons.mp hmem with rfl | hrest
    · simp only [BEq.rfl, Bool.not_true, Bool.false_eq_true, false_and, if_false, hnew,
        Bool.not_false, if_true]
      omega
    · have hlt := ih hrest
      simp only [List.contains_cons, Bool.not_or] at hlt
      by_cases hin : taken.contains entry.1 = true
      · simp only [hin, Bool.not_true, Bool.false_eq_true, and_false, if_false]
        omega
      · by_cases heq : (entry.1 == id) = true
        · simp only [heq, Bool.not_true, Bool.false_eq_true, false_and, if_false]
          omega
        · simp only [Bool.not_eq_true] at hin heq
          simp only [hin, heq, Bool.not_false, and_self, if_true]
          omega

/-- An id without a position has no `Index.targets`. -/
theorem targets_of_position?_eq_none {index : Index} {scenes : List Scene} {id : String}
    (h : index.position? id = none) : index.targets scenes id = [] := by
  simp [targets, scene?, h]

/-- The ids taken by the walk from a queue, after those taken already, the latest first. -/
def trail (index : Index) (scenes : List Scene) (taken : List String) :
    List String → List String
  | [] => taken
  | id :: queue =>
    if taken.contains id then trail index scenes (id :: taken) queue
    else trail index scenes (id :: taken) (queue ++ index.targets scenes id)
termination_by queue => (index.untaken taken, queue.length)
decreasing_by
  · rcases Nat.lt_or_eq_of_le (untaken_cons_le index taken id) with hlt | heq
    · exact Prod.Lex.left _ _ hlt
    · rw [heq]
      exact Prod.Lex.right _ (by simp)
  · next hnew =>
    cases hpos : index.position? id with
    | some position =>
      exact Prod.Lex.left _ _ (untaken_cons_lt hpos (by simpa using hnew))
    | none =>
      rw [targets_of_position?_eq_none hpos, List.append_nil]
      rcases Nat.lt_or_eq_of_le (untaken_cons_le index taken id) with hlt | heq
      · exact Prod.Lex.left _ _ hlt
      · rw [heq]
        exact Prod.Lex.right _ (by simp)

/-- The walk ends when nothing waits. -/
@[simp]
theorem trail_nil {index : Index} {scenes : List Scene} {taken : List String} :
    index.trail scenes taken [] = taken := by
  rw [trail]

/-- An id that was taken before is taken again by `Index.trail` and adds nothing to the queue. -/
theorem trail_cons_of_mem {index : Index} {scenes : List Scene} {taken queue : List String}
    {id : String} (h : id ∈ taken) :
    index.trail scenes taken (id :: queue) = index.trail scenes (id :: taken) queue := by
  rw [trail, if_pos (by simpa using h)]

/-- The `Index.targets` of an id that is taken for the first time join the queue. -/
theorem trail_cons_of_notMem {index : Index} {scenes : List Scene} {taken queue : List String}
    {id : String} (h : id ∉ taken) :
    index.trail scenes taken (id :: queue) =
      index.trail scenes (id :: taken) (queue ++ index.targets scenes id) := by
  rw [trail, if_neg (by simpa using h)]

/-- The `Index.trail` from one id, with nothing taken before: the ids taken, the latest first. -/
def trailFrom (index : Index) (scenes : List Scene) (id : String) : List String :=
  index.trail scenes [] [id]

end Index

end Gamebook
