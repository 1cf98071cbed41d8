import Gamebook.Text.Lowercase
import Mathlib.Data.List.Basic

/-!
# Lower cases

Making a text lowercase a second time changes nothing: no run of the table leads to a character
that lies in a run. Two runs may share a stretch, where capitals and small letters take turns.
Hardly anything outside of ASCII has a lower case in it. There are the Kelvin sign, which becomes
a `k`, and the capital I with a dot above, which becomes an `i` and a dot.

* `toLower_of_mem_toLower`: a lower case is its own.
* `eq_of_mem_toLower`: what comes before the small letters is the lower case of nothing else.
* `ascii_or_kelvin`: what has a lower case in ASCII.
-/

namespace Gamebook.Text

/-! ### The table -/

/-- Whether the code points from a first to a last one, taken in steps, miss all characters of some
runs. A run may reach in between them if both go in steps of two and take turns. -/
private def misses (first last step : Nat) : List CaseRun → Bool
  | [] => true
  | run :: rest =>
    if last < run.first then true
    else if run.last < first then misses first last step rest
    else run.step == 2 && (step == 2 || first == last) && (first + run.first) % 2 == 1 &&
      misses first last step rest

/-- `lowerIn` leaves code points alone that miss the characters of the runs. -/
private theorem lowerIn_of_misses {first last step n : Nat} {runs : List CaseRun}
    (h : misses first last step runs = true) (hfirst : first ≤ n) (hlast : n ≤ last)
    (hstep : (n - first) % step = 0) : lowerIn runs n = n := by
  induction runs with
  | nil => rfl
  | cons run rest ih =>
    rw [misses] at h
    rw [lowerIn]
    split at h
    · rw [if_pos (by omega)]
    · split at h
      · rw [if_neg (by omega : ¬n ≤ run.last), ih h, ite_self]
      · simp only [Bool.and_eq_true, Bool.or_eq_true, beq_iff_eq] at h
        obtain ⟨⟨⟨hrun, hway⟩, hodd⟩, hrest⟩ := h
        -- the run and the code points take turns, so none of them is in the run
        have hbetween : run.first ≤ n → (n - run.first) % run.step ≠ 0 := by
          rw [hrun]
          rcases hway with rfl | rfl <;> omega
        split
        · rfl
        · next hle =>
          rw [if_neg (hbetween (Nat.le_of_not_lt hle)), ih hrest, ite_self]

/-- The lower cases of each run in `lowerRuns` miss the characters of all runs. -/
private theorem misses_lowerRuns :
    lowerRuns.all (fun run =>
      misses run.lower (run.lower + (run.last - run.first)) run.step lowerRuns) = true := by
  decide +kernel

/-- `lowerCode` leaves a lower case alone. -/
theorem lowerCode_lowerCode (n : Nat) : lowerCode (lowerCode n) = lowerCode n := by
  rcases lowerCode_eq_or n with hsame | ⟨run, hrun, hfirst, hlast, hstep, hmoved⟩
  · rw [hsame, hsame]
  · have hmisses := List.all_eq_true.mp misses_lowerRuns run hrun
    rw [hmoved]
    refine lowerIn_of_misses hmisses (Nat.le_add_right _ _) (by omega) ?_
    rw [Nat.add_sub_cancel_left, hstep]

/-- The lower cases of a run in `lowerRuns` are characters, and none of them is the capital I with a
dot. -/
private theorem lowerRuns_valid :
    lowerRuns.all (fun run => run.lower + (run.last - run.first) < 0x130 ||
      0x130 < run.lower && run.lower + (run.last - run.first) < 0xD800 ||
      0xDFFF < run.lower && run.lower + (run.last - run.first) < 0x110000) = true := by
  decide

/-- The `lowerCode` of a character is that of one. -/
private theorem isValidChar_lowerCode (c : Char) : (lowerCode c.toNat).isValidChar := by
  rcases lowerCode_eq_or c.toNat with hsame | ⟨run, hrun, hfirst, hlast, -, hmoved⟩
  · rw [hsame]
    exact c.valid
  · have hvalid := List.all_eq_true.mp lowerRuns_valid run hrun
    simp only [Bool.or_eq_true, Bool.and_eq_true, decide_eq_true_eq] at hvalid
    rw [hmoved, Nat.isValidChar]
    omega

/-- The capital I with a dot is the `lowerCode` of no other character. -/
private theorem eq_dotted_of_lowerCode {n : Nat} (h : lowerCode n = 0x130) : n = 0x130 := by
  rcases lowerCode_eq_or n with hsame | ⟨run, hrun, hfirst, hlast, -, hmoved⟩
  · rw [← hsame, h]
  · have hvalid := List.all_eq_true.mp lowerRuns_valid run hrun
    simp only [Bool.or_eq_true, Bool.and_eq_true, decide_eq_true_eq] at hvalid
    omega

/-- A run of `lowerRuns` that leads into ASCII lies there, apart from that of the Kelvin sign. -/
private theorem lowerRuns_ascii :
    lowerRuns.all (fun run =>
      run.last < 128 || 128 ≤ run.lower || run.first == 0x212A && run.last == 0x212A) = true := by
  decide

private theorem lowerCode_kelvin : lowerCode 0x212A = 0x6B := by decide

/-- What has its `lowerCode` in ASCII lies there, apart from the Kelvin sign. -/
private theorem ascii_or_kelvin_of_lowerCode {n : Nat} (h : lowerCode n < 128) :
    n < 128 ∨ n = 0x212A := by
  rcases lowerCode_eq_or n with hsame | ⟨run, hrun, hfirst, hlast, -, hmoved⟩
  · exact .inl (hsame ▸ h)
  · have hascii := List.all_eq_true.mp lowerRuns_ascii run hrun
    simp only [Bool.or_eq_true, Bool.and_eq_true, decide_eq_true_eq, beq_iff_eq] at hascii
    omega

/-! ### Letters of ASCII -/

theorem isUpper_iff_toNat {c : Char} : c.isUpper = true ↔ 65 ≤ c.toNat ∧ c.toNat ≤ 90 :=
  decide_eq_true_iff

theorem toNat_toLower (c : Char) :
    c.toLower.toNat = if c.isUpper = true then c.toNat + 32 else c.toNat := by
  by_cases h : c.isUpper = true
  · have hle := isUpper_iff_toNat.mp h
    have hlower : c.toLower.val = c.val + 32 := congrArg Char.val (dif_pos hle)
    have hadd : (c.val + 32).toNat = (c.toNat + 32) % 2 ^ 32 := UInt32.toNat_add _ _
    have hsmall : (c.toNat + 32) % 2 ^ 32 = c.toNat + 32 := Nat.mod_eq_of_lt (by omega)
    rw [if_pos h, ← Char.toNat_val, hlower, hadd, hsmall]
  · have hlower : c.toLower = c := dif_neg fun hle => h (isUpper_iff_toNat.mpr hle)
    rw [if_neg h, hlower]

/-- On ASCII `toLower` is `Char.toLower`. -/
private theorem toLower_of_ascii {c : Char} (h : c.toNat < 128) : toLower c = [c.toLower] := by
  have hdotted : c ≠ '\u0130' := by
    rintro rfl
    exact absurd h (by decide)
  rw [toLower, if_neg hdotted, lowerCode_of_ascii c.toNat h, Char.ofNat_toNat, Char.ofNat_toNat]

theorem flatMap_toLower_of_ascii {cs : List Char} (h : ∀ c ∈ cs, c.toNat < 128) :
    cs.flatMap toLower = cs.map Char.toLower := by
  rw [List.map_eq_flatMap]
  exact List.flatMap_congr fun c hc => toLower_of_ascii (h c hc)

/-! ### Characters -/

private theorem toNat_ofNat_lowerCode (c : Char) :
    (Char.ofNat (lowerCode c.toNat)).toNat = lowerCode c.toNat := by
  rw [Char.ofNat, dif_pos (isValidChar_lowerCode c)]
  rfl

/-- What `toLower` gives is found in the table, unless it is the lower case of the capital I with a
dot. -/
private theorem mem_toLower_iff {c d : Char} :
    d ∈ toLower c ↔ c = '\u0130' ∧ (d = 'i' ∨ d = '\u0307') ∨
      c ≠ '\u0130' ∧ d.toNat = lowerCode c.toNat := by
  rw [toLower]
  split
  · next hc => simp [hc]
  · next hc => simp [hc, ← Char.toNat_inj, toNat_ofNat_lowerCode]

/-- `toLower` leaves a lower case alone. -/
theorem toLower_of_mem_toLower {c d : Char} (h : d ∈ toLower c) : toLower d = [d] := by
  rcases mem_toLower_iff.mp h with ⟨-, rfl | rfl⟩ | ⟨hc, hd⟩
  · decide
  · decide
  · have hdotted : d ≠ '\u0130' := by
      rintro rfl
      exact hc (Char.toNat_inj.mp (eq_dotted_of_lowerCode hd.symm))
    rw [toLower, if_neg hdotted, hd, lowerCode_lowerCode, ← hd, Char.ofNat_toNat]

/-- What has all its `toLower` in ASCII lies there, apart from the Kelvin sign. -/
theorem ascii_or_kelvin {c : Char} (h : ∀ d ∈ toLower c, d.toNat < 128) :
    c.toNat < 128 ∨ c = '\u212A' := by
  by_cases hc : c = '\u0130'
  · exact absurd (h '\u0307' (mem_toLower_iff.mpr (.inl ⟨hc, .inr rfl⟩))) (by decide)
  · rw [toLower, if_neg hc, List.forall_mem_singleton, toNat_ofNat_lowerCode] at h
    exact (ascii_or_kelvin_of_lowerCode h).imp_right fun hkelvin => Char.toNat_inj.mp hkelvin

/-- What comes before the small letters of ASCII is in the `toLower` of no other character. -/
theorem eq_of_mem_toLower {c d : Char} (h : d ∈ toLower c) (hd : d.toNat < 97) : c = d := by
  rcases mem_toLower_iff.mp h with ⟨-, rfl | rfl⟩ | ⟨-, hcode⟩
  · exact absurd hd (by decide)
  · exact absurd hd (by decide)
  · have hascii : lowerCode c.toNat < 128 := by omega
    rcases ascii_or_kelvin_of_lowerCode hascii with hc | hc
    · rw [toLower_of_ascii hc, List.mem_singleton] at h
      have hcase := toNat_toLower c
      simp only [← h, isUpper_iff_toNat] at hcase
      refine Char.toNat_inj.mp ?_
      split at hcase <;> omega
    · rw [hcode, hc, lowerCode_kelvin] at hd
      exact absurd hd (by decide)

end Gamebook.Text
