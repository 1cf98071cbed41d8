/-!
# Sets of flags

A flag is known by its name. A set of flags is kept as the ascending list of its names, so two
sets with the same members are equal and `names` is the order in which a set is listed.

* `mem_insert` and `mem_erase` say what the two updates do to membership.
* `FlagSet.ext` says that the members determine the set.
-/

namespace Gamebook

/-- Adds `name` at its place in an ascending list, unless it is there. -/
def insertName (name : String) : List String → List String
  | [] => [name]
  | other :: rest =>
    if name < other then name :: other :: rest
    else if name = other then other :: rest
    else other :: insertName name rest

private theorem mem_insertName {x name : String} {names : List String} :
    x ∈ insertName name names ↔ x = name ∨ x ∈ names := by
  induction names with
  | nil => simp [insertName]
  | cons other rest ih =>
    rw [insertName]
    split
    · simp
    · split
      · next h => simp [h]
      · simp only [List.mem_cons, ih]
        exact or_left_comm

/-- Of two different names that are not in order, the second comes first. -/
theorem lt_of_not_lt_of_ne {a b : String} (h : ¬a < b) (hne : a ≠ b) : b < a := by
  rcases Decidable.em (b < a) with hlt | hlt
  · exact hlt
  · exact absurd (String.le_antisymm (String.not_lt.mp hlt) (String.not_lt.mp h)) hne

/-- `insertName` keeps the list ascending. -/
private theorem pairwise_insertName {name : String} {names : List String}
    (h : names.Pairwise (· < ·)) : (insertName name names).Pairwise (· < ·) := by
  induction names with
  | nil => simp [insertName]
  | cons other rest ih =>
    obtain ⟨hother, hrest⟩ := List.pairwise_cons.mp h
    rw [insertName]
    split
    · next hlt =>
      refine List.pairwise_cons.mpr ⟨fun x hx => ?_, h⟩
      rcases List.mem_cons.mp hx with rfl | hx
      · exact hlt
      · exact String.lt_trans hlt (hother x hx)
    · split
      · exact h
      · next hnlt hne =>
        refine List.pairwise_cons.mpr ⟨fun x hx => ?_, ih hrest⟩
        rcases mem_insertName.mp hx with rfl | hx
        · exact lt_of_not_lt_of_ne hnlt hne
        · exact hother x hx

/-- A finite set of flag names, held as an ascending list. -/
structure FlagSet where
  /-- The members in ascending order of their code points. -/
  names : List String
  ascending : names.Pairwise (· < ·)
deriving DecidableEq

namespace FlagSet

/-- The set without members. -/
def empty : FlagSet := ⟨[], List.Pairwise.nil⟩

instance : Inhabited FlagSet := ⟨empty⟩

/-- Whether a flag is in the set, as `name ∈ flags` says. -/
def contains (flags : FlagSet) (name : String) : Bool := flags.names.contains name

/-- The set with a flag added. -/
def insert (flags : FlagSet) (name : String) : FlagSet :=
  ⟨insertName name flags.names, pairwise_insertName flags.ascending⟩

/-- The set with a flag taken out. -/
def erase (flags : FlagSet) (name : String) : FlagSet :=
  ⟨flags.names.filter (· != name), flags.ascending.filter _⟩

/-- The set of the flags in a list. -/
def ofList (names : List String) : FlagSet := names.foldl insert empty

instance : Membership String FlagSet := ⟨fun flags name => name ∈ flags.names⟩

instance {flags : FlagSet} {name : String} : Decidable (name ∈ flags) :=
  inferInstanceAs (Decidable (name ∈ flags.names))

theorem mem_iff {flags : FlagSet} {name : String} : name ∈ flags ↔ name ∈ flags.names :=
  Iff.rfl

@[simp]
theorem not_mem_empty {name : String} : name ∉ empty := by
  simp [mem_iff, empty]

@[simp]
theorem mem_insert {flags : FlagSet} {x name : String} :
    x ∈ flags.insert name ↔ x = name ∨ x ∈ flags :=
  mem_insertName

@[simp]
theorem mem_erase {flags : FlagSet} {x name : String} :
    x ∈ flags.erase name ↔ x ∈ flags ∧ x ≠ name := by
  simp [mem_iff, erase]

/-- Folding `FlagSet.insert` adds the names of the list. -/
private theorem mem_foldl_insert {names : List String} {flags : FlagSet} {x : String} :
    x ∈ names.foldl insert flags ↔ x ∈ flags ∨ x ∈ names := by
  induction names generalizing flags with
  | nil => simp
  | cons name rest ih => simp [ih, or_assoc, or_left_comm]

@[simp]
theorem mem_ofList {names : List String} {x : String} : x ∈ ofList names ↔ x ∈ names := by
  simp [ofList, mem_foldl_insert]

/-- Two ascending lists with the same members are the same list. -/
theorem eq_of_pairwise_of_mem_iff : ∀ {l m : List String}, l.Pairwise (· < ·) →
    m.Pairwise (· < ·) → (∀ x, x ∈ l ↔ x ∈ m) → l = m
  | [], [], _, _, _ => rfl
  | [], b :: m, _, _, h => absurd ((h b).mpr (by simp)) (by simp)
  | a :: l, [], _, _, h => absurd ((h a).mp (by simp)) (by simp)
  | a :: l, b :: m, hl, hm, h => by
    obtain ⟨ha, hl'⟩ := List.pairwise_cons.mp hl
    obtain ⟨hb, hm'⟩ := List.pairwise_cons.mp hm
    have hab : a = b := by
      rcases List.mem_cons.mp ((h a).mp (by simp)) with rfl | ham
      · rfl
      · rcases List.mem_cons.mp ((h b).mpr (by simp)) with rfl | hbl
        · rfl
        · exact absurd (String.lt_trans (ha b hbl) (hb a ham)) (String.lt_irrefl a)
    subst hab
    refine congrArg _ (eq_of_pairwise_of_mem_iff hl' hm' fun x => ⟨fun hx => ?_, fun hx => ?_⟩)
    · rcases List.mem_cons.mp ((h x).mp (List.mem_cons_of_mem _ hx)) with rfl | hxm
      · exact absurd (ha x hx) (String.lt_irrefl x)
      · exact hxm
    · rcases List.mem_cons.mp ((h x).mpr (List.mem_cons_of_mem _ hx)) with rfl | hxl
      · exact absurd (hb x hx) (String.lt_irrefl x)
      · exact hxl

/-- A `FlagSet` is determined by its members. -/
@[ext]
theorem ext {a b : FlagSet} (h : ∀ x, x ∈ a ↔ x ∈ b) : a = b := by
  obtain ⟨l, hl⟩ := a
  obtain ⟨m, hm⟩ := b
  have hlm : l = m := eq_of_pairwise_of_mem_iff hl hm h
  subst hlm
  rfl

end FlagSet

end Gamebook
