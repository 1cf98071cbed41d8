import Gamebook.Book.Trail
import Mathlib.Logic.Relation

/-!
# Trails and paths

The walk of a trail takes exactly the ids to which a chain of targets leads from where it
starts. Nothing else is taken because whatever holds of the ids in the queue and passes from an
id to its targets holds of every id taken (`Index.forall_mem_trail`). Nothing is left out because
the targets of an id that was taken were taken themselves or wait in the queue, and in the end
none wait (`Index.Settled`).

The index and the list of scenes are arbitrary here. They need not belong together, and the
queue may hold an id any number of times.

* `Index.trail_invariant`: what every step of the walk keeps holds at its end.
* `Index.mem_trailFrom_iff`: membership in a trail is the reflexive and transitive closure of
  `Index.Leads`.
-/

namespace Gamebook

namespace Index

/-- The scene that the index finds under the id `source` goes to `target`. -/
def Leads (index : Index) (scenes : List Scene) (source target : String) : Prop :=
  target ∈ index.targets scenes source

/-- Every target of an id that was taken was taken as well or waits in the queue. -/
private def Settled (index : Index) (scenes : List Scene) (taken queue : List String) : Prop :=
  ∀ id ∈ taken, ∀ target, index.Leads scenes id target → target ∈ taken ∨ target ∈ queue

variable {index : Index} {scenes : List Scene} {taken queue : List String} {id start : String}

/-! ### The walk as a whole -/

/-- What both kinds of steps of `Index.trail` keep of the ids taken and the queue holds at the end
of the walk, when the queue is empty. -/
private theorem trail_invariant {I : List String → List String → Prop}
    (hseen : ∀ {taken queue id}, id ∈ taken → I taken (id :: queue) → I (id :: taken) queue)
    (hnew : ∀ {taken queue id}, id ∉ taken → I taken (id :: queue) →
      I (id :: taken) (queue ++ index.targets scenes id))
    (h : I taken queue) : I (index.trail scenes taken queue) [] := by
  induction taken, queue using trail.induct index scenes with
  | case1 taken => simpa using h
  | case2 taken id queue hmem ih =>
    have hmem : id ∈ taken := List.contains_iff_mem.mp hmem
    rw [trail_cons_of_mem hmem]
    exact ih (hseen hmem h)
  | case3 taken id queue hnotMem ih =>
    have hnotMem : id ∉ taken := fun hmem => hnotMem (List.contains_iff_mem.mpr hmem)
    rw [trail_cons_of_notMem hnotMem]
    exact ih (hnew hnotMem h)

/-- Whatever holds of the ids taken and in the queue, and passes from an id to where it `Leads`,
holds of all ids of the `Index.trail`. -/
private theorem forall_mem_trail {P : String → Prop}
    (hstep : ∀ source target, P source → index.Leads scenes source target → P target)
    (htaken : ∀ id ∈ taken, P id) (hqueue : ∀ id ∈ queue, P id) :
    ∀ id ∈ index.trail scenes taken queue, P id := by
  refine (trail_invariant
    (I := fun taken queue => (∀ id ∈ taken, P id) ∧ ∀ id ∈ queue, P id) ?_ ?_
    ⟨htaken, hqueue⟩).1
  · intro taken queue id _ ⟨htaken, hqueue⟩
    rw [List.forall_mem_cons] at hqueue
    exact ⟨List.forall_mem_cons.mpr ⟨hqueue.1, htaken⟩, hqueue.2⟩
  · intro taken queue id _ ⟨htaken, hqueue⟩
    rw [List.forall_mem_cons] at hqueue
    refine ⟨List.forall_mem_cons.mpr ⟨hqueue.1, htaken⟩, fun target htarget => ?_⟩
    rcases List.mem_append.mp htarget with hwait | hnext
    · exact hqueue.2 target hwait
    · exact hstep id target hqueue.1 hnext

/-- When the id in front of the queue is taken, whatever was taken or waiting is so still. -/
private theorem mem_or_mem_of_take {other : String} (h : id ∈ taken ∨ id ∈ other :: queue) :
    id ∈ other :: taken ∨ id ∈ queue := by
  rcases h with htaken | hwait
  · exact Or.inl (List.mem_cons_of_mem _ htaken)
  · rcases List.mem_cons.mp hwait with rfl | hwait
    · exact Or.inl List.mem_cons_self
    · exact Or.inr hwait

/-- The `Index.trail` takes all ids of the queue and keeps those taken. -/
private theorem mem_trail_of_mem (h : id ∈ taken ∨ id ∈ queue) :
    id ∈ index.trail scenes taken queue := by
  have hend : id ∈ index.trail scenes taken queue ∨ id ∈ [] := by
    refine trail_invariant (I := fun taken queue => id ∈ taken ∨ id ∈ queue) ?_ ?_ h
    · intro taken queue other _ h
      exact mem_or_mem_of_take h
    · intro taken queue other _ h
      exact (mem_or_mem_of_take h).imp_right (List.mem_append_left _)
  exact hend.resolve_right List.not_mem_nil

/-! ### What is not left out -/

/-- Taking an id again keeps `Settled`. -/
private theorem Settled.cons_of_mem (h : index.Settled scenes taken (id :: queue))
    (hmem : id ∈ taken) : index.Settled scenes (id :: taken) queue := by
  intro source hsource target hlead
  have htaken : source ∈ taken := by
    rcases List.mem_cons.mp hsource with rfl | htaken
    · exact hmem
    · exact htaken
  exact mem_or_mem_of_take (h source htaken target hlead)

/-- Taking an id keeps `Settled` when its targets join the queue. -/
private theorem Settled.cons_append_targets (h : index.Settled scenes taken (id :: queue)) :
    index.Settled scenes (id :: taken) (queue ++ index.targets scenes id) := by
  intro source hsource target hlead
  rcases List.mem_cons.mp hsource with rfl | htaken
  · -- the id was not settled before, but its targets are what joins the queue
    exact Or.inr (List.mem_append_right _ hlead)
  · exact (mem_or_mem_of_take (h source htaken target hlead)).imp_right
      (List.mem_append_left _)

/-- At the end of the walk all targets of ids taken are taken. -/
private theorem Settled.trail (h : index.Settled scenes taken queue) :
    index.Settled scenes (index.trail scenes taken queue) [] :=
  trail_invariant (I := index.Settled scenes) (fun hmem h => h.cons_of_mem hmem)
    (fun _ h => h.cons_append_targets) h

/-! ### Trails from one id -/

/-- `Index.trailFrom` takes exactly the ids to which a chain of targets leads from the first one. -/
theorem mem_trailFrom_iff :
    id ∈ index.trailFrom scenes start ↔ Relation.ReflTransGen (index.Leads scenes) start id := by
  constructor
  · intro h
    refine forall_mem_trail (fun _ _ => Relation.ReflTransGen.tail) (by simp) ?_ id h
    intro other hother
    rw [List.mem_singleton.mp hother]
  · intro h
    have hsettled : index.Settled scenes (index.trailFrom scenes start) [] :=
      Settled.trail fun _ hnone => absurd hnone List.not_mem_nil
    -- along the chain, from each id taken to the next
    induction h with
    | refl => exact mem_trail_of_mem (Or.inr List.mem_cons_self)
    | tail _ hlead ih => exact (hsettled _ ih _ hlead).resolve_right List.not_mem_nil

end Index

end Gamebook
