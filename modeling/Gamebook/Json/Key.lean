import Gamebook.FlagSet
import Gamebook.Json.Value
import Gamebook.Text.Lowercase

/-!
# Folded keys

Keys of objects are compared without regard to case, underscores and hyphens. Folding a value
replaces the keys of all its objects by their folded forms and lists the members of each object
in the order of these. Where members of one object have the same folded key, the one whose key
was greatest counts, and of members with the same key the last.

* `mem_keys_settle`: the keys of a folded object are the folded keys of its members.
-/

namespace Gamebook.Json

/-- A key without underscores and hyphens, in lower case. -/
def foldKey (key : String) : String :=
  .ofList ((key.toList.filter fun c => c != '_' && c != '-').flatMap Text.toLower)

/-- A member of an object, with its `foldKey`. -/
structure Keyed (α : Type) where
  folded : String
  key : String
  value : α

/-- Puts a member at its place among members in ascending order of their folded keys. It takes
the place of a member with the same folded key unless the key of that one is greater. -/
def place {α : Type} (member : Keyed α) : List (Keyed α) → List (Keyed α)
  | [] => [member]
  | other :: rest =>
    if member.folded < other.folded then member :: other :: rest
    else if member.folded = other.folded then
      (if member.key < other.key then other else member) :: rest
    else other :: place member rest

/-- The members of an object under their folded keys, put in one by one with `place`. -/
def settle {α : Type} (members : List (String × α)) : List (String × α) :=
  (members.foldl (fun done (key, value) => place ⟨foldKey key, key, value⟩ done) []).map
    fun member => (member.folded, member.value)

mutual

/-- A value with the keys of all its objects folded by `settle`. -/
def Value.foldKeys : Value → Value
  | .array items => .array (Value.foldItems items)
  | .object members => .object (settle (Value.foldMembers members))
  | value => value

/-- The elements of an array with their keys folded. -/
def Value.foldItems : List Value → List Value
  | [] => []
  | value :: rest => value.foldKeys :: Value.foldItems rest

/-- The members of an object with the keys inside their values folded. -/
def Value.foldMembers : List (String × Value) → List (String × Value)
  | [] => []
  | (key, value) :: rest => (key, value.foldKeys) :: Value.foldMembers rest

end

/-! ### Placing members -/

/-- `place` adds the folded key of the member and no other. -/
private theorem mem_folded_place {α : Type} {member : Keyed α} {done : List (Keyed α)}
    {x : String} :
    x ∈ (place member done).map (·.folded) ↔ x = member.folded ∨ x ∈ done.map (·.folded) := by
  induction done with
  | nil => simp [place]
  | cons other rest ih =>
    rw [place]
    split
    · simp
    · split
      · next heq => split <;> simp [heq]
      · rw [List.map_cons, List.mem_cons, ih, List.map_cons, List.mem_cons]
        exact or_left_comm

/-- `place` keeps the folded keys ascending. -/
theorem pairwise_place {α : Type} {member : Keyed α} {done : List (Keyed α)}
    (h : (done.map (·.folded)).Pairwise (· < ·)) :
    ((place member done).map (·.folded)).Pairwise (· < ·) := by
  induction done with
  | nil => simp [place]
  | cons other rest ih =>
    rw [List.map_cons, List.pairwise_cons] at h
    rw [place]
    split
    · next hlt =>
      rw [List.map_cons, List.map_cons, List.pairwise_cons, List.pairwise_cons]
      refine ⟨fun x hx => ?_, h⟩
      rcases List.mem_cons.mp hx with rfl | hx
      · exact hlt
      · exact String.lt_trans hlt (h.1 x hx)
    · split
      · next heq =>
        rw [List.map_cons, List.pairwise_cons]
        split
        · exact h
        · rw [heq]
          exact h
      · next hnlt hne =>
        rw [List.map_cons, List.pairwise_cons]
        refine ⟨fun x hx => ?_, ih h.2⟩
        rcases mem_folded_place.mp hx with rfl | hx
        · exact lt_of_not_lt_of_ne hnlt hne
        · exact h.1 x hx

/-- `place` for members one after the other adds their folded keys. -/
theorem mem_folded_foldl_place {α : Type} {members : List (String × α)}
    {done : List (Keyed α)} {x : String} :
    x ∈ (members.foldl (fun done (key, value) => place ⟨foldKey key, key, value⟩ done) done).map
        (·.folded) ↔
      x ∈ done.map (·.folded) ∨ ∃ member ∈ members, x = foldKey member.1 := by
  induction members generalizing done with
  | nil => simp
  | cons member rest ih =>
    rw [List.foldl_cons, ih, mem_folded_place]
    simp only [List.mem_cons, exists_eq_or_imp]
    rw [or_assoc, or_left_comm]

/-- The keys that `settle` leaves are the folded keys of the members. -/
theorem mem_keys_settle {α : Type} {members : List (String × α)} {x : String} :
    x ∈ (settle members).map Prod.fst ↔ ∃ member ∈ members, x = foldKey member.1 := by
  rw [settle, List.map_map]
  exact mem_folded_foldl_place.trans (by simp)

end Gamebook.Json
