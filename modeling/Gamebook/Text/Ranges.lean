/-!
# Character tables

A property of characters is given by the ranges of code points that have it. A table lists
its ranges in ascending order, so a search may stop at the first range that lies above the
code point.

* `Ranges.has_cons` says what one range adds to the search.
* `Ranges.exists_of_has` says that a hit lies in some range of the table, and
  `Ranges.has_eq_false` that there is none where the table has no range.
-/

namespace Gamebook.Text

/-- Ranges of code points with both ends included, in ascending order. -/
abbrev Ranges := List (Nat × Nat)

/-- Whether a code point lies in one of the `Ranges`. -/
def Ranges.has : Ranges → Nat → Bool
  | [], _ => false
  | (low, high) :: rest, n => if n < low then false else n ≤ high || Ranges.has rest n

@[simp]
theorem Ranges.has_nil {n : Nat} : Ranges.has [] n = false := rfl

/-- A range that does not lie above the code point either holds it or is skipped. -/
private theorem Ranges.has_cons {low high n : Nat} {rest : Ranges} :
    Ranges.has ((low, high) :: rest) n =
      (decide (low ≤ n) && (decide (n ≤ high) || Ranges.has rest n)) := by
  by_cases h : n < low
  · simp [Ranges.has, h, Nat.not_le.mpr h]
  · simp [Ranges.has, h, Nat.not_lt.mp h]

/-- `Ranges.has` finds the code points between the ends of the first range. -/
theorem Ranges.has_cons_of_le {low high n : Nat} {rest : Ranges} (hlow : low ≤ n)
    (hhigh : n ≤ high) : Ranges.has ((low, high) :: rest) n = true := by
  simp [Ranges.has_cons, hlow, hhigh]

/-- What `Ranges.has` finds lies in a range of the table. -/
theorem Ranges.exists_of_has {table : Ranges} {n : Nat} (h : table.has n = true) :
    ∃ range ∈ table, range.1 ≤ n ∧ n ≤ range.2 := by
  induction table with
  | nil => simp at h
  | cons range rest ih =>
    obtain ⟨low, high⟩ := range
    rw [Ranges.has_cons, Bool.and_eq_true, Bool.or_eq_true] at h
    rcases h with ⟨hlow, hhigh | hrest⟩
    · exact ⟨(low, high), by simp, of_decide_eq_true hlow, of_decide_eq_true hhigh⟩
    · obtain ⟨found, hmem, hbounds⟩ := ih hrest
      exact ⟨found, List.mem_cons_of_mem _ hmem, hbounds⟩

/-- `Ranges.has` finds no code point between two bounds in a table without a range between them. -/
theorem Ranges.has_eq_false {table : Ranges} {n : Nat} (low high : Nat)
    (h : table.all (fun range => range.2 < low || high < range.1) = true) (hlow : low ≤ n)
    (hhigh : n ≤ high) : table.has n = false := by
  refine Bool.eq_false_iff.mpr fun hhas => ?_
  obtain ⟨range, hmem, hrange⟩ := exists_of_has hhas
  have hrow := List.all_eq_true.mp h range hmem
  simp only [Bool.or_eq_true, decide_eq_true_eq] at hrow
  omega

/-- `Ranges.has` finds no code point of `other` in a table whose ranges do not meet those of
`other`. -/
theorem Ranges.has_eq_false_of_has {table other : Ranges} {n : Nat}
    (h : other.all (fun range => table.all fun row => row.2 < range.1 || range.2 < row.1) = true)
    (hother : other.has n = true) : table.has n = false := by
  obtain ⟨range, hmem, hlow, hhigh⟩ := exists_of_has hother
  exact has_eq_false range.1 range.2 (List.all_eq_true.mp h range hmem) hlow hhigh

end Gamebook.Text
