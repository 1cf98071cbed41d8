import Gamebook.Text.Blank

/-!
# Selections

What a player types to select a choice: its number in decimal digits, perhaps after a plus
sign, with blank characters around it.

* `Selection.ofText?_eq_some_iff`: a text gives a number exactly when it is of this form and the
  value of its digits fits 32 bits.
-/

namespace Gamebook.Selection

/-- Takes off a plus sign in front. -/
def unsigned : List Char → List Char
  | '+' :: rest => rest
  | cs => cs

/-- A number with one more digit, as long as it stays below a bound. -/
def appendDigit (bound n : Nat) (c : Char) : Option Nat :=
  let next := 10 * n + (c.toNat - '0'.toNat)
  if c.isDigit ∧ next < bound then some next else none

/-- The value of a text of one or more decimal digits, if it is below a bound. -/
def digitsBelow? (bound : Nat) (cs : List Char) : Option Nat :=
  if cs.isEmpty then none else cs.foldlM (appendDigit bound) 0

/-- The number below `2 ^ 32` that a text selects. -/
def ofText? (text : String) : Option UInt32 :=
  (digitsBelow? UInt32.size (unsigned (Text.trim text.toList))).map .ofNat

/-! ### The value of digits -/

private theorem le_ofDigitChars (cs : List Char) (n : Nat) : n ≤ Nat.ofDigitChars 10 cs n := by
  induction cs generalizing n with
  | nil => exact Nat.le_refl _
  | cons c rest ih =>
    rw [Nat.ofDigitChars_cons]
    exact Nat.le_trans (by omega) (ih _)

/-- Folding `appendDigit` reads digits one by one until the bound is reached. -/
private theorem foldlM_appendDigit_eq_some_iff {bound : Nat} {cs : List Char} {n m : Nat}
    (hn : n < bound) :
    cs.foldlM (appendDigit bound) n = some m ↔
      (∀ c ∈ cs, c.isDigit = true) ∧ Nat.ofDigitChars 10 cs n = m ∧ m < bound := by
  induction cs generalizing n with
  | nil =>
    simp only [List.foldlM_nil, List.not_mem_nil, false_implies, implies_true, true_and]
    constructor
    · intro h
      cases h
      exact ⟨rfl, hn⟩
    · rintro ⟨rfl, -⟩
      rfl
  | cons c rest ih =>
    rw [List.foldlM_cons, Nat.ofDigitChars_cons, List.forall_mem_cons]
    by_cases h : c.isDigit = true ∧ 10 * n + (c.toNat - '0'.toNat) < bound
    · rw [appendDigit, if_pos h]
      change rest.foldlM (appendDigit bound) _ = some m ↔ _
      rw [ih h.2]
      simp [h.1]
    · rw [appendDigit, if_neg h]
      refine iff_of_false (by simp) ?_
      rintro ⟨⟨hc, -⟩, hvalue, hm⟩
      exact h ⟨hc, Nat.lt_of_le_of_lt (le_ofDigitChars rest _) (hvalue ▸ hm)⟩

/-- What `digitsBelow?` gives: the value of a list of decimal digits that is not empty, if the value
is below the bound. -/
private theorem digitsBelow?_eq_some_iff {bound : Nat} {cs : List Char} {n : Nat} (h : 0 < bound) :
    digitsBelow? bound cs = some n ↔
      cs ≠ [] ∧ (∀ c ∈ cs, c.isDigit = true) ∧ Nat.ofDigitChars 10 cs 0 = n ∧ n < bound := by
  rw [digitsBelow?]
  split
  · next hempty => simp [List.isEmpty_iff.mp hempty]
  · next hempty =>
    rw [foldlM_appendDigit_eq_some_iff h]
    simp [List.isEmpty_iff] at hempty
    simp [hempty]

/-- `Selection.ofText?` gives a number exactly when there are digits, perhaps after a plus sign,
between the blanks of the text, and their value is the number. -/
theorem ofText?_eq_some_iff {text : String} {number : UInt32} :
    ofText? text = some number ↔
      unsigned (Text.trim text.toList) ≠ [] ∧
        (∀ c ∈ unsigned (Text.trim text.toList), c.isDigit = true) ∧
        Nat.ofDigitChars 10 (unsigned (Text.trim text.toList)) 0 = number.toNat := by
  rw [ofText?, Option.map_eq_some_iff]
  constructor
  · rintro ⟨n, hn, rfl⟩
    obtain ⟨hne, hdigits, hvalue, hlt⟩ := (digitsBelow?_eq_some_iff (by decide)).mp hn
    exact ⟨hne, hdigits, hvalue.trans (UInt32.toNat_ofNat_of_lt' hlt).symm⟩
  · rintro ⟨hne, hdigits, hvalue⟩
    exact ⟨number.toNat, (digitsBelow?_eq_some_iff (by decide)).mpr
      ⟨hne, hdigits, hvalue, number.toNat_lt_size⟩, UInt32.ofNat_toNat⟩

end Gamebook.Selection
