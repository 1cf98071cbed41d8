import Gamebook.Proofs.Play.Listing

/-!
# The order of a page

A page lists the choices of its scene by number. The scene need not be playable: its choices may
share numbers or have the number zero. Every choice is listed once, with its own text and its own
availability, and choices with the same number stand as the author left them. A page is made by
sorting entries; sorting the choices first and showing them afterwards comes to the same.

* `filter_mergeSort`: a stable sort does not move members that the order does not tell apart.
* `Scene.InOrder` and `Choice.ShownAs`: the order of the choices, and what is shown of each.
* `Scene.page_shows_choices_in_order`: the page of any scene for any player.
-/

namespace Gamebook

/-! ### Sorting -/

/-- `List.mergeSort` does not change the order of members that may all stand before each other. -/
private theorem filter_mergeSort {α : Type} {le : α → α → Bool} {p : α → Bool}
    (trans : ∀ a b c, le a b = true → le b c = true → le a c = true)
    (total : ∀ a b, (le a b || le b a) = true)
    (h : ∀ a b, p a = true → p b = true → le a b = true) (l : List α) :
    (l.mergeSort le).filter p = l.filter p := by
  -- those members are a sorted part of the list, and a stable sort keeps such parts
  have hsorted : (l.filter p).Pairwise fun a b => le a b = true := by
    refine List.pairwise_of_forall_mem_list fun a ha b hb => ?_
    exact h a b (List.mem_filter.mp ha).2 (List.mem_filter.mp hb).2
  have hkept : (l.filter p).Sublist (l.mergeSort le) :=
    List.sublist_mergeSort trans total hsorted List.filter_sublist
  have hsub : (l.filter p).Sublist ((l.mergeSort le).filter p) := by
    have hfilter := hkept.filter p
    simpa only [List.filter_filter, Bool.and_self] using hfilter
  have hperm : ((l.mergeSort le).filter p).Perm (l.filter p) := (List.mergeSort_perm l le).filter p
  exact (hsub.eq_of_length hperm.length_eq.symm).symm

/-- The order in which `Scene.page` lists choices: by their numbers. -/
def Choice.notAfter (a b : Choice) : Bool := a.number ≤ b.number

private theorem Choice.notAfter_trans (a b c : Choice) (hab : a.notAfter b = true)
    (hbc : b.notAfter c = true) : a.notAfter c = true := by
  rw [notAfter, decide_eq_true_eq] at *
  exact UInt32.le_trans hab hbc

private theorem Choice.notAfter_total (a b : Choice) : (a.notAfter b || b.notAfter a) = true := by
  rw [notAfter, notAfter, Bool.or_eq_true, decide_eq_true_eq, decide_eq_true_eq]
  exact UInt32.le_total _ _

/-! ### What a page shows -/

/-- The choices of a scene in the order of their numbers, and those with the same number in the
order of the author. -/
structure Scene.InOrder (scene : Scene) (ordered : List Choice) : Prop where
  perm : ordered.Perm scene.choices
  ascending : ordered.Pairwise fun a b => a.number ≤ b.number
  stable : ∀ number, ordered.filter (·.number == number) =
    scene.choices.filter (·.number == number)

/-- An `Entry` shows a choice to a player with these flags. -/
structure Choice.ShownAs (choice : Choice) (flags : FlagSet) (entry : Entry) : Prop where
  number_eq : entry.number = choice.number
  text_eq : entry.text = choice.text
  isAvailable_iff : entry.availability.isAvailable = true ↔
    (∀ name ∈ choice.requiresAll, name ∈ flags) ∧ ∀ name ∈ choice.requiresNone, name ∉ flags
  /-- The author's reason is given exactly when the choice cannot be taken. -/
  reason_eq : entry.availability.reason? =
    if entry.availability.isAvailable then none else choice.disabledReason

/-- Sorting the choices of a scene by `Choice.notAfter` puts them in order. -/
theorem Scene.inOrder_mergeSort (scene : Scene) :
    scene.InOrder (scene.choices.mergeSort Choice.notAfter) where
  perm := List.mergeSort_perm _ _
  ascending := by
    have hsorted := List.pairwise_mergeSort Choice.notAfter_trans Choice.notAfter_total
      scene.choices
    exact hsorted.imp fun h => of_decide_eq_true h
  stable number := by
    refine filter_mergeSort Choice.notAfter_trans Choice.notAfter_total (fun a b ha hb => ?_) _
    have hequal : a.number = b.number := (beq_iff_eq.mp ha).trans (beq_iff_eq.mp hb).symm
    rw [Choice.notAfter, decide_eq_true_eq, hequal]
    exact UInt32.le_refl _

/-- `Choice.entry` shows the choice. -/
private theorem Choice.shownAs_entry (choice : Choice) (flags : FlagSet) :
    choice.ShownAs flags (choice.entry flags) where
  number_eq := rfl
  text_eq := rfl
  isAvailable_iff := by rw [isAvailable_entry, isMet_iff]
  reason_eq := by rw [isAvailable_entry, reason?_entry]

/-- The entries of a `Scene.page` are the choices in order, each as it is shown. -/
theorem Page.entries_eq_map {scene : Scene} {player : Player} :
    (scene.page player).entries =
      (scene.choices.mergeSort Choice.notAfter).map (·.entry player.flags) := by
  have hagree : ∀ a ∈ scene.choices, ∀ b ∈ scene.choices,
      a.notAfter b = (a.entry player.flags).notAfter (b.entry player.flags) :=
    fun _ _ _ _ => rfl
  exact (List.map_mergeSort hagree).symm

/-- A `Scene.page` has one entry for each choice of its scene, in the order of their numbers and of
the author where numbers are the same. Each entry shows its own choice. -/
theorem Scene.page_shows_choices_in_order (scene : Scene) (player : Player) :
    ((scene.page player).id = scene.id ∧ (scene.page player).text = scene.text ∧
      (scene.page player).isEnd = scene.isEnd) ∧
    ∃ ordered, scene.InOrder ordered ∧
      List.Forall₂ (·.ShownAs player.flags) ordered (scene.page player).entries := by
  refine ⟨⟨rfl, rfl, rfl⟩, _, scene.inOrder_mergeSort, ?_⟩
  rw [Page.entries_eq_map, List.forall₂_map_right_iff, List.forall₂_same]
  exact fun choice _ => choice.shownAs_entry player.flags

end Gamebook
