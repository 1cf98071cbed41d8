import Gamebook.Selection

/-!
# Texts that select a number

Which texts select a number, said without the reader: blank characters at both ends do not count,
and between them stands at most one plus sign and after it decimal digits only, at least one of
them. Zeros in front of a number do not matter, so a text may have any length; a number is never
cut off, since a value that does not fit is not read at all.

* `Text.Trims` is what is left between blanks, and `Text.trims_iff` says that trimming leaves it.
* `Selection.Spells` are the characters that spell a number.
* `Selection.ofText?_reads_spelled_numbers`: the numbers that texts select, and the texts that
  select none.
-/

namespace Gamebook

/-! ### Between blanks -/

namespace Text

/-- What is left of a list of characters without the blanks at both ends. -/
structure Trims (cs core : List Char) : Prop where
  exists_blanks : ∃ before after, cs = before ++ core ++ after ∧
    (∀ c ∈ before, isBlank c = true) ∧ ∀ c ∈ after, isBlank c = true
  head_visible : ∀ c, core.head? = some c → isBlank c = false
  last_visible : ∀ c, core.getLast? = some c → isBlank c = false

private theorem dropWhile_eq_self_of_head? {p : Char → Bool} {cs : List Char}
    (h : ∀ c, cs.head? = some c → p c = false) : cs.dropWhile p = cs := by
  cases cs with
  | nil => rfl
  | cons c rest => exact List.dropWhile_cons_of_neg (by simp [h c rfl])

private theorem eq_false_of_head?_dropWhile {p : Char → Bool} {cs : List Char} {c : Char}
    (h : (cs.dropWhile p).head? = some c) : p c = false := by
  have hkept := List.head?_dropWhile_not p cs
  rw [h] at hkept
  exact hkept

/-- `trim` takes off the blanks around characters that neither begin nor end with one. -/
private theorem trim_eq_of_trims {cs core : List Char} (h : Trims cs core) : trim cs = core := by
  obtain ⟨⟨before, after, rfl, hbefore, hafter⟩, hhead, hlast⟩ := h
  rw [trim, List.append_assoc, List.dropWhile_append_of_pos hbefore]
  by_cases hcore : core = []
  · have hnone : after.dropWhile isBlank = [] :=
      dropWhile_eq_nil_iff_all.mpr (List.all_eq_true.mpr hafter)
    rw [hcore, List.nil_append, hnone]
    rfl
  · have hkept : (core ++ after).dropWhile isBlank = core ++ after := by
      obtain ⟨first, rest, rfl⟩ := List.exists_cons_of_ne_nil hcore
      exact dropWhile_eq_self_of_head? hhead
    have hback : ∀ c ∈ after.reverse, isBlank c = true :=
      fun c hc => hafter c (List.mem_reverse.mp hc)
    have hend : core.reverse.dropWhile isBlank = core.reverse :=
      dropWhile_eq_self_of_head? fun c hc => hlast c (by rwa [List.head?_reverse] at hc)
    rw [hkept, List.reverse_append, List.dropWhile_append_of_pos hback, hend, List.reverse_reverse]

/-- What `trim` leaves neither begins nor ends with a blank, and only blanks are taken off. -/
private theorem trims_trim (cs : List Char) : Trims cs (trim cs) := by
  -- the blanks in front go first, so the blanks at the end are those of what is left then
  have hback : cs.dropWhile isBlank =
      trim cs ++ ((cs.dropWhile isBlank).reverse.takeWhile isBlank).reverse := by
    rw [trim, ← List.reverse_append, List.takeWhile_append_dropWhile, List.reverse_reverse]
  refine ⟨⟨cs.takeWhile isBlank, ((cs.dropWhile isBlank).reverse.takeWhile isBlank).reverse,
    ?_, ?_, ?_⟩, ?_, ?_⟩
  · rw [List.append_assoc, ← hback, List.takeWhile_append_dropWhile]
  · exact fun c hc => List.all_eq_true.mp List.all_takeWhile c hc
  · exact fun c hc => List.all_eq_true.mp List.all_takeWhile c (List.mem_reverse.mp hc)
  · intro c hc
    have hfirst : (cs.dropWhile isBlank).head? = some c := by
      rw [hback, List.head?_append, hc]
      rfl
    exact eq_false_of_head?_dropWhile hfirst
  · intro c hc
    rw [trim, List.getLast?_reverse] at hc
    exact eq_false_of_head?_dropWhile hc

/-- `trim` leaves what stands between the blanks at both ends. -/
theorem trims_iff {cs core : List Char} : Trims cs core ↔ trim cs = core := by
  constructor
  · exact trim_eq_of_trims
  · rintro rfl
    exact trims_trim cs

private theorem isBlank_of_isDigit {c : Char} (h : c.isDigit = true) : isBlank c = false := by
  have hbounds : 48 ≤ c.toNat ∧ c.toNat ≤ 57 := by
    simpa [Char.isDigit, UInt32.le_iff_toNat_le] using h
  exact Ranges.has_eq_false 48 57 (by decide) hbounds.1 hbounds.2

end Text

open Text (Trims)

namespace Selection

/-! ### Spelled numbers -/

/-- Characters that spell a number: perhaps a plus sign, and then one or more decimal digits with
this value. -/
def Spells (core : List Char) (value : Nat) : Prop :=
  ∃ sign digits, core = sign ++ digits ∧ (sign = [] ∨ sign = ['+']) ∧ digits ≠ [] ∧
    (∀ c ∈ digits, c.isDigit = true) ∧ Nat.ofDigitChars 10 digits 0 = value

private theorem unsigned_of_isDigit {cs : List Char} (h : ∀ c ∈ cs, c.isDigit = true) :
    unsigned cs = cs := by
  rw [unsigned]
  rintro rest rfl
  exact absurd (h '+' List.mem_cons_self) (by decide)

/-- A plus sign is all that `unsigned` takes off. -/
private theorem exists_sign (cs : List Char) :
    ∃ sign, cs = sign ++ unsigned cs ∧ (sign = [] ∨ sign = ['+']) := by
  rw [unsigned.eq_def]
  split
  · exact ⟨['+'], rfl, Or.inr rfl⟩
  · exact ⟨[], rfl, Or.inl rfl⟩

/-- `Spells` holds exactly when `unsigned` leaves digits with the value. -/
private theorem spells_iff {core : List Char} {value : Nat} : Spells core value ↔
    unsigned core ≠ [] ∧ (∀ c ∈ unsigned core, c.isDigit = true) ∧
      Nat.ofDigitChars 10 (unsigned core) 0 = value := by
  constructor
  · rintro ⟨sign, digits, rfl, hsign, hne, hdigits, hvalue⟩
    have hcore : unsigned (sign ++ digits) = digits := by
      rcases hsign with rfl | rfl
      · exact unsigned_of_isDigit hdigits
      · rfl
    rw [hcore]
    exact ⟨hne, hdigits, hvalue⟩
  · rintro ⟨hne, hdigits, hvalue⟩
    obtain ⟨sign, hcore, hsign⟩ := exists_sign core
    exact ⟨sign, unsigned core, hcore, hsign, hne, hdigits, hvalue⟩

/-- The decimal form `toString n` consists of digits. -/
theorem isDigit_of_mem_toString {n : Nat} {c : Char} (h : c ∈ (toString n).toList) :
    c.isDigit = true := by
  rw [Nat.toString_eq_ofList_toDigits, String.toList_ofList] at h
  exact Nat.isDigit_of_mem_toDigits (by decide) (by decide) h

/-- The decimal form `toString n` spells `n`. -/
private theorem spells_toString (n : Nat) : Spells (toString n).toList n := by
  have hdigits : (toString n).toList = Nat.toDigits 10 n := by
    rw [Nat.toString_eq_ofList_toDigits, String.toList_ofList]
  refine ⟨[], (toString n).toList, rfl, Or.inl rfl, ?_, fun c hc => isDigit_of_mem_toString hc, ?_⟩
  · rw [hdigits]
    exact Nat.toDigits_ne_nil
  · rw [hdigits]
    exact Nat.ofDigitChars_ten_toDigits

/-! ### The numbers that texts select -/

/-- `Selection.ofText?` gives a number exactly when the text `Spells` it between its blanks. -/
theorem ofText?_eq_some_iff_spells {text : String} {number : UInt32} :
    ofText? text = some number ↔ ∃ core, Trims text.toList core ∧ Spells core number.toNat := by
  simp only [Text.trims_iff, spells_iff, exists_eq_left', ofText?_eq_some_iff]

/-- `Selection.ofText?` gives a number exactly when, between the blanks at both ends, the text
`Spells` one that is at most `4294967295`. In all other cases it gives none. So the decimal form of
a number selects it, whatever blanks stand around it. -/
theorem ofText?_reads_spelled_numbers :
    (∀ text value, (ofText? text).map UInt32.toNat = some value ↔
      value ≤ 4294967295 ∧ ∃ core, Trims text.toList core ∧ Spells core value) ∧
    (∀ text, ofText? text = none ↔
      ¬∃ core value, Trims text.toList core ∧ Spells core value ∧ value ≤ 4294967295) ∧
    ∀ (number : UInt32) (before after : String), Text.isBlankText before = true →
      Text.isBlankText after = true →
        ofText? (before ++ toString number.toNat ++ after) = some number := by
  have hread : ∀ text value, (ofText? text).map UInt32.toNat = some value ↔
      value ≤ 4294967295 ∧ ∃ core, Trims text.toList core ∧ Spells core value := by
    intro text value
    rw [Option.map_eq_some_iff]
    constructor
    · rintro ⟨number, hnumber, rfl⟩
      exact ⟨Nat.le_of_lt_succ number.toNat_lt_size, ofText?_eq_some_iff_spells.mp hnumber⟩
    · rintro ⟨hle, hspelled⟩
      have hvalue : (UInt32.ofNat value).toNat = value :=
        UInt32.toNat_ofNat_of_lt' (Nat.lt_succ_of_le hle)
      exact ⟨.ofNat value, ofText?_eq_some_iff_spells.mpr (by rwa [hvalue]), hvalue⟩
  refine ⟨hread, fun text => ?_, fun number before after hbefore hafter => ?_⟩
  · rw [← Option.map_eq_none_iff (f := UInt32.toNat), Option.eq_none_iff_forall_ne_some]
    constructor
    · rintro h ⟨core, value, htrims, hspells, hle⟩
      exact h value ((hread text value).mpr ⟨hle, core, htrims, hspells⟩)
    · intro h value hvalue
      obtain ⟨hle, core, htrims, hspells⟩ := (hread text value).mp hvalue
      exact h ⟨core, value, htrims, hspells, hle⟩
  · have hvisible : ∀ c ∈ (toString number.toNat).toList, Text.isBlank c = false :=
      fun c hc => Text.isBlank_of_isDigit (isDigit_of_mem_toString hc)
    refine ofText?_eq_some_iff_spells.mpr ⟨_, ?_, spells_toString number.toNat⟩
    exact
      { exists_blanks := ⟨before.toList, after.toList, by simp, List.all_eq_true.mp hbefore,
          List.all_eq_true.mp hafter⟩
        head_visible := fun c hc => hvisible c (List.mem_of_head? hc)
        last_visible := fun c hc => hvisible c (List.mem_of_getLast? hc) }

/-- The largest number is selected between blanks that are not ASCII, and with a plus sign and a
zero in front. The number after it is not selected. -/
theorem ofText?_reads_largest :
    (Text.isBlankText "\t\u3000" = true ∧ Text.isBlankText "\u2028\r\n" = true ∧
      ofText? ("\t\u3000" ++ toString (4294967295 : UInt32).toNat ++ "\u2028\r\n") =
        some 4294967295) ∧
    (ofText? "+04294967295\n").map UInt32.toNat = some 4294967295 ∧
    ofText? "4294967296" = none := by
  obtain ⟨hread, hnone, hdecimal⟩ := ofText?_reads_spelled_numbers
  have hbefore : Text.isBlankText "\t\u3000" = true := by decide
  have hafter : Text.isBlankText "\u2028\r\n" = true := by decide
  refine ⟨⟨hbefore, hafter, hdecimal 4294967295 _ _ hbefore hafter⟩, ?_, ?_⟩
  · have hspells : Spells "+04294967295".toList 4294967295 :=
      spells_iff.mpr ⟨by decide, List.all_eq_true.mp (by decide), by decide⟩
    exact (hread _ _).mpr ⟨Nat.le_refl _, _, Text.trims_iff.mpr (by decide), hspells⟩
  · refine (hnone _).mpr ?_
    rintro ⟨core, value, htrims, hspells, hle⟩
    have hcore : core = "4294967296".toList := (Text.trims_iff.mp htrims).symm.trans (by decide)
    have hvalue : Nat.ofDigitChars 10 (unsigned core) 0 = 4294967296 := by
      rw [hcore]
      decide
    obtain ⟨-, -, hsame⟩ := spells_iff.mp hspells
    omega

end Selection

end Gamebook
