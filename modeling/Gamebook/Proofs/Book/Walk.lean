import Gamebook.Proofs.Book.Trail
import Mathlib.Algebra.BigOperators.Group.Finset.Basic
import Mathlib.Algebra.GroupWithZero.Nat

/-!
# The length of a walk

A walk over an index goes on in steps, each of which takes the id in front of the queue. The queue
grows on the way and may hold an id many times, so its length says nothing about the end. But the
targets of a scene join the queue only when its id is taken for the first time, hence once for each
scene that is reached, and a step takes one id out of the queue. So the number of steps is known
from the scenes that are reached.

The index is arbitrary here: it need not belong to the list of scenes. It may lack ids that scenes
go to, and only its positions have to lie inside the list.

* `Index.Walk`: the steps of a walk up to its end.
* `Index.exists_walk`: a walk ends, wherever it starts.
* `Index.Walk.length_eq`: each step takes one id, and targets join one by one.
* `Index.walk_joins_targets_once`: what the steps of a walk from one id come to.
-/

namespace Gamebook

namespace Index

/-- One step of a `Walk`: an id that is taken, and the targets that join the queue for it. -/
structure Step where
  /-- The id that is taken. -/
  id : String
  /-- The targets that join the queue, if the id is one of the index and is taken first here. -/
  joining : Option (List String)
deriving DecidableEq

/-- Whether the targets of an id join the queue. -/
def Step.joins (step : Step) (id : String) : Bool := step.id == id && step.joining.isSome

/-- How many ids join the queue. -/
def Step.gain (step : Step) : Nat := (step.joining.getD []).length

/-- The steps of a walk from the ids taken and the queue up to its end, when the queue is empty. A
walk is stuck where a position lies outside the list of scenes. -/
inductive Walk (index : Index) (scenes : List Scene) :
    List String → List String → List Step → Prop
  | done {taken : List String} : Walk index scenes taken [] []
  /-- An id that was taken before brings nothing new. -/
  | again {taken queue : List String} {id : String} {steps : List Step} (hmem : id ∈ taken)
    (hrest : Walk index scenes (id :: taken) queue steps) :
    Walk index scenes taken (id :: queue) (⟨id, none⟩ :: steps)
  /-- An id that the index lacks has no targets. -/
  | unknown {taken queue : List String} {id : String} {steps : List Step} (hnew : id ∉ taken)
    (hnone : index.position? id = none) (hrest : Walk index scenes (id :: taken) queue steps) :
    Walk index scenes taken (id :: queue) (⟨id, none⟩ :: steps)
  | first {taken queue : List String} {id : String} {position : Nat} {scene : Scene}
    {steps : List Step} (hnew : id ∉ taken) (hposition : index.position? id = some position)
    (hscene : scenes[position]? = some scene)
    (hrest : Walk index scenes (id :: taken) (queue ++ scene.targets) steps) :
    Walk index scenes taken (id :: queue) (⟨id, some scene.targets⟩ :: steps)

variable {index : Index} {scenes : List Scene} {taken queue : List String} {steps : List Step}
  {id start : String}

/-! ### The end of a walk -/

private theorem scene?_eq_some {position : Nat} {scene : Scene}
    (hposition : index.position? id = some position) (hscene : scenes[position]? = some scene) :
    index.scene? scenes id = some scene := by
  rw [scene?, hposition, Option.bind_some, hscene]

private theorem targets_eq {scene : Scene} (h : index.scene? scenes id = some scene) :
    index.targets scenes id = scene.targets := by
  rw [targets, h, Option.map_some, Option.getD_some]

/-- An index whose positions lie inside the list finds a scene under every id that it knows. -/
private theorem exists_scene? (hinside : ∀ id position, index.position? id = some position →
    position < scenes.length) (h : index.knows id = true) :
    ∃ scene, index.scene? scenes id = some scene := by
  obtain ⟨position, hposition⟩ := Option.isSome_iff_exists.mp h
  have hlt : position < scenes.length := hinside id position hposition
  exact ⟨scenes[position], scene?_eq_some hposition (List.getElem?_eq_getElem hlt)⟩

/-- There is a `Walk` to the end of the queue, whatever waits in it. -/
theorem exists_walk (hinside : ∀ id position, index.position? id = some position →
    position < scenes.length) (taken queue : List String) :
    ∃ steps, index.Walk scenes taken queue steps := by
  -- the measure of `trail` bounds the steps: ids that were not taken, then the queue
  induction taken, queue using trail.induct index scenes with
  | case1 taken => exact ⟨[], .done⟩
  | case2 taken id queue hmem ih =>
    obtain ⟨steps, hsteps⟩ := ih
    exact ⟨_, .again (List.contains_iff_mem.mp hmem) hsteps⟩
  | case3 taken id queue hnotMem ih =>
    obtain ⟨steps, hsteps⟩ := ih
    have hnew : id ∉ taken := fun hmem => hnotMem (List.contains_iff_mem.mpr hmem)
    cases hposition : index.position? id with
    | none =>
      rw [targets_of_position?_eq_none hposition, List.append_nil] at hsteps
      exact ⟨_, .unknown hnew hposition hsteps⟩
    | some position =>
      have hscene := List.getElem?_eq_getElem (hinside id position hposition)
      rw [targets_eq (scene?_eq_some hposition hscene)] at hsteps
      exact ⟨_, .first hnew hposition hscene hsteps⟩

/-- `Index.trail` is the record of the steps of a `Walk`, the latest first. -/
theorem Walk.trail_eq (h : index.Walk scenes taken queue steps) :
    index.trail scenes taken queue = (steps.map (·.id)).reverse ++ taken := by
  induction h with
  | done => exact trail_nil
  | again hmem _ ih => rw [trail_cons_of_mem hmem, ih]; simp
  | unknown hnew hnone _ ih =>
    rw [trail_cons_of_notMem hnew, targets_of_position?_eq_none hnone, List.append_nil, ih]
    simp
  | first hnew hposition hscene _ ih =>
    rw [trail_cons_of_notMem hnew, targets_eq (scene?_eq_some hposition hscene), ih]
    simp

/-- A `Walk` from one id takes the ids to which a chain of targets leads from it. -/
private theorem Walk.mem_ids_iff (h : index.Walk scenes [] [start] steps) :
    id ∈ steps.map (·.id) ↔ Relation.ReflTransGen (index.Leads scenes) start id := by
  rw [← mem_trailFrom_iff, trailFrom, h.trail_eq, List.append_nil, List.mem_reverse]

/-! ### Targets that join -/

/-- Every `Step` takes an id out of the queue, so there are as many steps as ids that waited and
that joined. -/
theorem Walk.length_eq (h : index.Walk scenes taken queue steps) :
    steps.length = queue.length + (steps.map Step.gain).sum := by
  induction h with
  | done => rfl
  | again _ _ ih | unknown _ _ _ ih =>
    simp only [List.length_cons, List.map_cons, List.sum_cons, Step.gain, Option.getD_none,
      List.length_nil]
    omega
  | first _ _ _ _ ih =>
    simp only [List.length_cons, List.map_cons, List.sum_cons, Step.gain, Option.getD_some,
      List.length_append] at ih ⊢
    omega

/-- Targets that join are those of a scene whose id was not taken before. -/
private theorem Walk.eq_of_joins {step : Step} (h : index.Walk scenes taken queue steps)
    (hstep : step ∈ steps) (hjoins : step.joins id = true) :
    id ∉ taken ∧ ∃ scene, index.scene? scenes id = some scene ∧
      step = ⟨id, some scene.targets⟩ := by
  simp only [Step.joins, Bool.and_eq_true, beq_iff_eq] at hjoins
  obtain ⟨rfl, hsome⟩ := hjoins
  induction h with
  | done => exact absurd hstep List.not_mem_nil
  | again _ _ ih | unknown _ _ _ ih =>
    rcases List.mem_cons.mp hstep with rfl | hrest
    · exact absurd hsome (by simp)
    · exact (ih hrest).imp_left fun hnot hmem => hnot (List.mem_cons_of_mem _ hmem)
  | first hnew hposition hscene _ ih =>
    rcases List.mem_cons.mp hstep with rfl | hrest
    · exact ⟨hnew, _, scene?_eq_some hposition hscene, rfl⟩
    · exact (ih hrest).imp_left fun hnot hmem => hnot (List.mem_cons_of_mem _ hmem)

/-- The targets of an id that was taken do not join again. -/
private theorem Walk.filter_joins_of_mem (h : index.Walk scenes taken queue steps)
    (hmem : id ∈ taken) : steps.filter (·.joins id) = [] :=
  List.filter_eq_nil_iff.mpr fun _ hstep hjoins => (h.eq_of_joins hstep hjoins).1 hmem

/-- The targets of a scene whose id is taken for the first time join once. -/
private theorem Walk.filter_joins_of_notMem {scene : Scene}
    (h : index.Walk scenes taken queue steps)
    (hscene : index.scene? scenes id = some scene) (hnew : id ∉ taken)
    (hmem : id ∈ steps.map (·.id)) :
    steps.filter (·.joins id) = [⟨id, some scene.targets⟩] := by
  induction h with
  | done => exact absurd hmem List.not_mem_nil
  | @again _ _ other _ htaken _ ih =>
    have hne : id ≠ other := fun heq => hnew (heq ▸ htaken)
    rw [List.filter_cons_of_neg (by simp [Step.joins])]
    exact ih (by simp [hne, hnew]) ((List.mem_cons.mp hmem).resolve_left hne)
  | @unknown _ _ other _ _ hnone _ ih =>
    have hne : id ≠ other := by
      rintro rfl
      rw [scene?, hnone] at hscene
      exact absurd hscene (by simp)
    rw [List.filter_cons_of_neg (by simp [Step.joins])]
    exact ih (by simp [hne, hnew]) ((List.mem_cons.mp hmem).resolve_left hne)
  | @first _ _ other _ _ _ _ hposition hfound hrest ih =>
    by_cases heq : id = other
    · subst heq
      -- from here on the id is among those taken, so the rest of the walk adds nothing
      have hsame := (scene?_eq_some hposition hfound).symm.trans hscene
      rw [List.filter_cons_of_pos (by simp [Step.joins]),
        hrest.filter_joins_of_mem List.mem_cons_self, Option.some.inj hsame]
    · rw [List.filter_cons_of_neg (by simp [Step.joins, Ne.symm heq])]
      exact ih (by simp [heq, hnew]) ((List.mem_cons.mp hmem).resolve_left heq)

/-- An id that is taken for the first time comes on top of those that are taken later. -/
private theorem sum_cons_sdiff {f : String → Nat} {ids : List String} (hnew : id ∉ taken) :
    ∑ x ∈ (id :: ids).toFinset \ taken.toFinset, f x =
      f id + ∑ x ∈ ids.toFinset \ (id :: taken).toFinset, f x := by
  have hinsert : (id :: ids).toFinset \ taken.toFinset =
      insert id (ids.toFinset \ (id :: taken).toFinset) := by
    ext other
    by_cases heq : other = id <;> simp [heq, hnew]
  have hnotMem : id ∉ ids.toFinset \ (id :: taken).toFinset := by simp
  rw [hinsert, Finset.sum_insert hnotMem]

/-- The sum of each `Step.gain` of a `Walk` is the number of targets of the ids that it takes for
the first time. -/
private theorem Walk.sum_gain_eq (h : index.Walk scenes taken queue steps) :
    (steps.map Step.gain).sum =
      ∑ id ∈ (steps.map (·.id)).toFinset \ taken.toFinset, (index.targets scenes id).length := by
  induction h with
  | done => simp
  | @again taken _ id steps hmem _ ih =>
    have hsame : (id :: steps.map (·.id)).toFinset \ taken.toFinset =
        (steps.map (·.id)).toFinset \ (id :: taken).toFinset := by
      have hmem := List.mem_toFinset.mpr hmem
      rw [List.toFinset_cons, List.toFinset_cons, Finset.insert_sdiff_of_mem _ hmem,
        Finset.insert_eq_of_mem hmem]
    rw [List.map_cons, List.sum_cons, ih, List.map_cons, hsame]
    exact Nat.zero_add _
  | unknown hnew hnone _ ih =>
    rw [List.map_cons, List.sum_cons, ih, List.map_cons, sum_cons_sdiff hnew,
      targets_of_position?_eq_none hnone]
    rfl
  | first hnew hposition hscene _ ih =>
    rw [List.map_cons, List.sum_cons, ih, List.map_cons, sum_cons_sdiff hnew,
      targets_eq (scene?_eq_some hposition hscene)]
    rfl

/-! ### Walks from one id -/

/-- What the steps of a `Walk` from an id come to, given the ids of the index that it reaches. -/
structure Tally (index : Index) (scenes : List Scene) (start : String) (steps : List Step)
    (reached : Finset String) : Prop where
  /-- The steps are those of the walk that the trail records. -/
  trail_eq : index.trailFrom scenes start = (steps.map (·.id)).reverse
  mem_iff : ∀ id, id ∈ reached ↔
    index.knows id = true ∧ Relation.ReflTransGen (index.Leads scenes) start id
  joins_once : ∀ id ∈ reached, ∃ scene, index.scene? scenes id = some scene ∧
    steps.filter (·.joins id) = [⟨id, some scene.targets⟩]
  joins_never : ∀ id, id ∉ reached → steps.filter (·.joins id) = []
  length_eq : steps.length = 1 + ∑ id ∈ reached, (index.targets scenes id).length

/-- A `Walk` has the `Tally` of the ids of the index that it takes. -/
private theorem Walk.tally (hinside : ∀ id position, index.position? id = some position →
    position < scenes.length) (h : index.Walk scenes [] [start] steps) :
    index.Tally scenes start steps
      ((steps.map (·.id)).toFinset.filter fun id => index.knows id = true) where
  trail_eq := by rw [trailFrom, h.trail_eq, List.append_nil]
  mem_iff id := by
    rw [Finset.mem_filter, List.mem_toFinset, h.mem_ids_iff, and_comm]
  joins_once id hmem := by
    obtain ⟨hid, hknows⟩ := Finset.mem_filter.mp hmem
    obtain ⟨scene, hscene⟩ := exists_scene? hinside hknows
    exact ⟨scene, hscene,
      h.filter_joins_of_notMem hscene List.not_mem_nil (List.mem_toFinset.mp hid)⟩
  joins_never id hnotMem := by
    refine List.filter_eq_nil_iff.mpr fun step hstep hjoins => hnotMem ?_
    obtain ⟨-, scene, hscene, rfl⟩ := h.eq_of_joins hstep hjoins
    refine Finset.mem_filter.mpr ⟨List.mem_toFinset.mpr (List.mem_map_of_mem hstep), ?_⟩
    obtain ⟨position, hposition, -⟩ := Option.bind_eq_some_iff.mp hscene
    rw [knows, hposition, Option.isSome_some]
  length_eq := by
    have hknown : ∀ id ∈ (steps.map (·.id)).toFinset, (index.targets scenes id).length ≠ 0 →
        index.knows id = true := by
      intro id _ htargets
      by_contra hknows
      have hnone : index.position? id = none := by simpa [knows] using hknows
      rw [targets_of_position?_eq_none hnone] at htargets
      exact htargets rfl
    rw [h.length_eq, h.sum_gain_eq, List.toFinset_nil, Finset.sdiff_empty,
      Finset.sum_filter_of_ne hknown]
    rfl

/-- A `Walk` over an index whose positions lie inside the list of scenes ends. The targets of each
id of the index to which it comes join the queue once, so the walk takes one step for the id where
it starts and one for each of these targets. -/
theorem walk_joins_targets_once (index : Index) (scenes : List Scene) (start : String)
    (hinside : ∀ id position, index.position? id = some position → position < scenes.length) :
    (∃ steps, index.Walk scenes [] [start] steps) ∧
      ∀ steps, index.Walk scenes [] [start] steps →
        ∃ reached, index.Tally scenes start steps reached :=
  ⟨exists_walk hinside [] [start], fun _ h => ⟨_, h.tally hinside⟩⟩

/-- A hall with a loop, two ways to a loft, and a way to a cave that is no scene. -/
def hall : Scene :=
  ⟨"hall", "", false,
    [⟨1, "", .empty, .empty, none, [⟨.gotoScene, "hall"⟩, ⟨.gotoScene, "loft"⟩]⟩,
      ⟨2, "", .empty, .empty, none, [⟨.gotoScene, "loft"⟩, ⟨.gotoScene, "cave"⟩]⟩]⟩

/-- A loft with a way back to the hall. -/
def loft : Scene := ⟨"loft", "", true, [⟨1, "", .empty, .empty, none, [⟨.gotoScene, "hall"⟩]⟩]⟩

/-- An index of the `hall` and the `loft`, the loft under two ids. -/
def hallIndex : Index := ⟨[("loft", 1), ("attic", 1), ("hall", 0)]⟩

/-- The walk from the `hall`. Five targets join, so there are six steps. -/
def hallSteps : List Step :=
  [⟨"hall", some hall.targets⟩, ⟨"hall", none⟩, ⟨"loft", some loft.targets⟩, ⟨"loft", none⟩,
    ⟨"cave", none⟩, ⟨"hall", none⟩]

/-- The walk from the `hall` has a `Tally`, although it comes back to the hall and to a place that
is no scene. -/
theorem walk_joins_targets_once_hall :
    (∀ id position, hallIndex.position? id = some position → position < [hall, loft].length) ∧
      hallIndex.Walk [hall, loft] [] ["hall"] hallSteps ∧
      ∃ reached, hallIndex.Tally [hall, loft] "hall" hallSteps reached := by
  have hentries : ∀ entry ∈ hallIndex.entries, entry.2 < [hall, loft].length := by decide
  have hinside : ∀ id position, hallIndex.position? id = some position →
      position < [hall, loft].length :=
    fun _ _ hposition => hentries _ (mem_entries_of_position? hposition)
  have hhall : hallIndex.position? "hall" = some 0 ∧ [hall, loft][0]? = some hall := ⟨rfl, rfl⟩
  have hloft : hallIndex.position? "loft" = some 1 ∧ [hall, loft][1]? = some loft := ⟨rfl, rfl⟩
  have hcave : hallIndex.position? "cave" = none := rfl
  have hwalk : hallIndex.Walk [hall, loft] [] ["hall"] hallSteps := by
    refine .first List.not_mem_nil hhall.1 hhall.2 ?_
    refine .again List.mem_cons_self ?_
    refine .first (by decide) hloft.1 hloft.2 ?_
    refine .again List.mem_cons_self ?_
    refine .unknown (by decide) hcave ?_
    exact .again (by decide) .done
  exact ⟨hinside, hwalk, (walk_joins_targets_once _ _ _ hinside).2 _ hwalk⟩

end Index

end Gamebook
