import Gamebook.Json.Chars
import Gamebook.Json.Token

/-!
# Reading numbers

A number has an optional sign and is infinite, no number, hexadecimal or decimal. A decimal
number may lack digits on one side of its point and may have an exponent.

* `length_readNumeral`: a number leaves a shorter text.
-/

namespace Gamebook.Json

/-! ### The parts of a number -/

/-- The sign at the front of a text. -/
def readSign : List Char → Option Sign × List Char
  | '+' :: rest => (some .plus, rest)
  | '-' :: rest => (some .minus, rest)
  | cs => (none, cs)

/-- The digits at the front of a text. -/
def readDigits (cs : List Char) : List Char × List Char :=
  (cs.takeWhile Char.isDigit, cs.dropWhile Char.isDigit)

/-- The digits before a point. A zero in front is the only one. -/
def readWhole : List Char → List Char × List Char
  | '0' :: rest => (['0'], rest)
  | cs => readDigits cs

/-- The point and the digits after it. -/
def readFraction : List Char → Option (List Char) × List Char
  | '.' :: rest => (some (readDigits rest).1, (readDigits rest).2)
  | cs => (none, cs)

/-- The exponent, which needs at least one digit. -/
def readExponent (cs : List Char) : Option (Option Sign × List Char) × List Char :=
  match cs with
  | c :: rest =>
    if c = 'e' ∨ c = 'E' then
      let (sign, rest) := readSign rest
      match readDigits rest with
      | ([], _) => (none, cs)
      | (digits, rest) => (some (sign, digits), rest)
    else (none, cs)
  | [] => (none, [])

/-- A decimal number: what `readWhole`, `readFraction` and `readExponent` take, with at least one
digit before or after the point. -/
def readDecimal (cs : List Char) : Option (Magnitude × List Char) :=
  let (whole, rest) := readWhole cs
  let (fraction, rest) := readFraction rest
  if whole.isEmpty && (fraction.getD []).isEmpty then none
  else
    let (exponent, rest) := readExponent rest
    some (.decimal whole fraction exponent, rest)

/-- The `Magnitude` of a number, which is what comes after its sign. -/
def readMagnitude (cs : List Char) : Option (Magnitude × List Char) :=
  match cs with
  | 'I' :: 'n' :: 'f' :: 'i' :: 'n' :: 'i' :: 't' :: 'y' :: rest => some (.infinity, rest)
  | 'N' :: 'a' :: 'N' :: rest => some (.notANumber, rest)
  | '0' :: x :: rest =>
    if (x = 'x' ∨ x = 'X') ∧ (rest.takeWhile isHexDigit).isEmpty = false then
      some (.hexadecimal (rest.takeWhile isHexDigit), rest.dropWhile isHexDigit)
    else readDecimal cs
  | _ => readDecimal cs

/-- A `Numeral` at the front of a text, with its sign. -/
def readNumeral (cs : List Char) : Option (Numeral × List Char) :=
  let (sign, rest) := readSign cs
  (readMagnitude rest).map fun (magnitude, after) => (⟨sign, magnitude⟩, after)

/-! ### Each part leaves no longer text -/

private theorem length_readSign (cs : List Char) : (readSign cs).2.length ≤ cs.length := by
  rw [readSign.eq_def]
  split <;> simp

private theorem length_readDigits (cs : List Char) :
    (readDigits cs).1.length + (readDigits cs).2.length = cs.length := by
  rw [readDigits, ← List.length_append, List.takeWhile_append_dropWhile]

private theorem length_readWhole (cs : List Char) :
    (readWhole cs).1.length + (readWhole cs).2.length = cs.length := by
  rw [readWhole.eq_def]
  split
  · simp only [List.length_cons, List.length_nil]
    omega
  · exact length_readDigits _

/-- `readFraction` takes at least as many characters as it gives digits. -/
private theorem length_readFraction (cs : List Char) :
    ((readFraction cs).1.getD []).length + (readFraction cs).2.length ≤ cs.length := by
  rw [readFraction.eq_def]
  split
  · next rest =>
    have := length_readDigits rest
    simp only [Option.getD_some, List.length_cons]
    omega
  · simp

private theorem length_readExponent (cs : List Char) : (readExponent cs).2.length ≤ cs.length := by
  rw [readExponent.eq_def]
  split
  · next c rest =>
    split
    · have hsign := length_readSign rest
      have hdigits := length_readDigits (readSign rest).2
      dsimp only
      split
      · exact Nat.le_refl _
      · next heq =>
        rw [heq] at hdigits
        simp only [List.length_cons] at *
        omega
    · exact Nat.le_refl _
  · exact Nat.le_refl _

private theorem length_readDecimal {cs after : List Char} {magnitude : Magnitude}
    (h : readDecimal cs = some (magnitude, after)) : after.length < cs.length := by
  have hwhole := length_readWhole cs
  have hfraction := length_readFraction (readWhole cs).2
  have hexponent := length_readExponent (readFraction (readWhole cs).2).2
  rw [readDecimal] at h
  dsimp only at h
  split at h
  · exact absurd h (by simp)
  · next hdigits =>
    cases h
    simp only [Bool.and_eq_true, List.isEmpty_iff_length_eq_zero] at hdigits
    omega

private theorem length_readMagnitude {cs after : List Char} {magnitude : Magnitude}
    (h : readMagnitude cs = some (magnitude, after)) : after.length < cs.length := by
  rw [readMagnitude.eq_def] at h
  split at h
  · cases h
    simp only [List.length_cons]
    omega
  · cases h
    simp only [List.length_cons]
    omega
  · split at h
    · cases h
      have := length_dropWhile_le isHexDigit ‹List Char›
      simp only [List.length_cons]
      omega
    · exact length_readDecimal h
  · exact length_readDecimal h

theorem length_readNumeral {cs after : List Char} {numeral : Numeral}
    (h : readNumeral cs = some (numeral, after)) : after.length < cs.length := by
  have hsign := length_readSign cs
  rw [readNumeral] at h
  obtain ⟨⟨magnitude, rest⟩, hread, heq⟩ := Option.map_eq_some_iff.mp h
  cases heq
  exact Nat.lt_of_lt_of_le (length_readMagnitude hread) hsign

end Gamebook.Json
