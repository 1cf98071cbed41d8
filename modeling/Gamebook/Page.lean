import Gamebook.Player

/-!
# Pages

A page is what a player is shown of a scene: its text and its choices in the order of their
numbers, each with its availability. Choices with the same number keep the order in which the
author wrote them.

* `Page.entries_perm`: a page has one entry for each choice.
* `Page.pairwise_entries`: the numbers ascend.
-/

namespace Gamebook

/-- A `Choice` as it is shown. -/
structure Entry where
  number : UInt32
  text : String
  availability : Availability
deriving DecidableEq

/-- A `Scene` as it is shown to a player. -/
structure Page where
  id : String
  text : String
  isEnd : Bool
  entries : List Entry
deriving DecidableEq

/-- The `Entry` of a choice for a player with these flags. -/
def Choice.entry (choice : Choice) (flags : FlagSet) : Entry :=
  ⟨choice.number, choice.text, choice.availability flags⟩

/-- The order of the entries of a `Page`. -/
def Entry.notAfter (a b : Entry) : Bool := a.number ≤ b.number

/-- The `Page` of a scene for a player. -/
def Scene.page (scene : Scene) (player : Player) : Page :=
  ⟨scene.id, scene.text, scene.isEnd,
    (scene.choices.map (·.entry player.flags)).mergeSort Entry.notAfter⟩

namespace Page

/-- A `Scene.page` has one `Entry` for each choice of its scene. -/
theorem entries_perm {scene : Scene} {player : Player} :
    (scene.page player).entries.Perm (scene.choices.map (·.entry player.flags)) :=
  List.mergeSort_perm _ _

/-- The entries of a `Scene.page` stand in the order of their numbers. -/
theorem pairwise_entries {scene : Scene} {player : Player} :
    (scene.page player).entries.Pairwise fun a b => a.number ≤ b.number := by
  refine List.Pairwise.imp (fun h => of_decide_eq_true h)
    (@List.pairwise_mergeSort _ Entry.notAfter ?_ ?_ _)
  · intro a b c hab hbc
    simp only [Entry.notAfter, decide_eq_true_eq] at *
    exact UInt32.le_trans hab hbc
  · intro a b
    simp only [Entry.notAfter, Bool.or_eq_true, decide_eq_true_eq]
    exact UInt32.le_total _ _

end Page

end Gamebook
