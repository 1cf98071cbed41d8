import Gamebook.Json.Numeral
import Gamebook.Json.Pieces

/-!
# Cutting a text into tokens

Spaces and comments stand between tokens and are left out. Each reader takes what it can from
the front of a list of characters and leaves a shorter one, so `scan` ends.

* `length_readToken`: a token takes at least its first character.
* `scan_cons_of_isSpace`, `scan_slash`, `scan_cons_of_readToken`: one step of the scan.
-/

namespace Gamebook.Json

/-! ### Comments -/

/-- The text after the end of a comment that may run over several lines. -/
def afterBlock : List Char → Option (List Char)
  | '*' :: '/' :: rest => some rest
  | _ :: rest => afterBlock rest
  | [] => none

/-- The text after a comment whose first slash was read. -/
def afterComment : List Char → Option (List Char)
  | '*' :: rest => afterBlock rest
  | '/' :: rest => some (rest.dropWhile (!isLineEnd ·))
  | _ => none

private theorem length_afterBlock {cs rest : List Char} (h : afterBlock cs = some rest) :
    rest.length < cs.length := by
  fun_induction afterBlock cs with
  | case1 after =>
    cases h
    simp only [List.length_cons]
    omega
  | case2 c after _ ih =>
    have := ih h
    simp only [List.length_cons]
    omega
  | case3 => exact absurd h (by simp)

private theorem length_afterComment {cs rest : List Char} (h : afterComment cs = some rest) :
    rest.length < cs.length := by
  rw [afterComment.eq_def] at h
  split at h
  · have := length_afterBlock h
    simp only [List.length_cons]
    omega
  · cases h
    exact Nat.lt_succ_of_le (length_dropWhile_le _ _)
  · exact absurd h (by simp)

/-! ### Tokens -/

/-- The `Token` of a single character. -/
def punctuation? : Char → Option Token
  | '\x7b' => some .leftBrace
  | '\x7d' => some .rightBrace
  | '[' => some .leftBracket
  | ']' => some .rightBracket
  | ':' => some .colon
  | ',' => some .comma
  | _ => none

/-- Whether a number may start with a character, names apart. -/
def startsNumber (c : Char) : Bool := c.isDigit || c == '.' || c == '+' || c == '-'

/-- The `Token` at the front of a text, given its first character and the rest. -/
def readToken (c : Char) (rest : List Char) : Option (Token × List Char) :=
  match punctuation? c with
  | some token => some (token, rest)
  | none =>
    if c = '"' ∨ c = '\x27' then
      (readPieces c rest).map fun (pieces, after) => (.string pieces, after)
    else if startsNumber c then
      (readNumeral (c :: rest)).map fun (numeral, after) => (.number numeral, after)
    else if startsName c || c == '\\' then
      match readName (c :: rest) with
      | ([], _) => none
      | (pieces, after) => some (.name pieces, after)
    else none

private theorem length_readToken {c : Char} {rest after : List Char} {token : Token}
    (h : readToken c rest = some (token, after)) : after.length ≤ rest.length := by
  rw [readToken] at h
  split at h
  · cases h
    exact Nat.le_refl _
  · split at h
    · obtain ⟨⟨pieces, r⟩, hread, heq⟩ := Option.map_eq_some_iff.mp h
      cases heq
      exact Nat.le_of_lt (length_readPieces hread)
    · split at h
      · obtain ⟨⟨numeral, r⟩, hread, heq⟩ := Option.map_eq_some_iff.mp h
        cases heq
        exact Nat.le_of_lt_succ (length_readNumeral hread)
      · split at h
        · have hname := length_readName (c :: rest)
          split at h
          · exact absurd h (by simp)
          · next pieces r hne heq =>
            cases h
            rw [heq] at hname
            have hpos : 0 < pieces.length :=
              List.length_pos_iff.mpr hne
            simp only [List.length_cons] at hname
            omega
        · exact absurd h (by simp)

/-- The list of `Token` of a text, if it can be cut into tokens to its end. -/
def scan : List Char → Option (List Token)
  | [] => some []
  | c :: rest =>
    if isSpace c then scan rest
    else if c = '/' then
      match _h : afterComment rest with
      | none => none
      | some after => scan after
    else
      match _h : readToken c rest with
      | none => none
      | some (token, after) => (scan after).map (token :: ·)
termination_by cs => cs.length
decreasing_by
  · exact Nat.lt_succ_self _
  · exact Nat.lt_succ_of_lt (length_afterComment _h)
  · exact Nat.lt_succ_of_le (length_readToken _h)

/-! ### The scan step by step -/

@[simp]
theorem scan_nil : scan [] = some [] := by
  rw [scan]

/-- A space is left out by `scan`. -/
theorem scan_cons_of_isSpace {c : Char} {rest : List Char} (h : isSpace c = true) :
    scan (c :: rest) = scan rest := by
  rw [scan, if_pos h]

/-- A comment is left out by `scan`. -/
theorem scan_slash {rest after : List Char} (h : afterComment rest = some after) :
    scan ('/' :: rest) = scan after := by
  rw [scan, if_neg (by decide), if_pos rfl]
  split
  · next hnone => exact absurd (h.symm.trans hnone) (by simp)
  · next other hsome => rw [Option.some.inj (hsome.symm.trans h)]

/-- What `readToken` takes from the front comes before the tokens of the rest. -/
theorem scan_cons_of_readToken {c : Char} {rest after : List Char} {token : Token}
    (hspace : isSpace c = false) (hslash : c ≠ '/')
    (h : readToken c rest = some (token, after)) :
    scan (c :: rest) = (scan after).map (token :: ·) := by
  rw [scan, if_neg (by simp [hspace]), if_neg hslash]
  split
  · next hnone => exact absurd (h.symm.trans hnone) (by simp)
  · next other r hsome =>
    cases hsome.symm.trans h
    rfl

end Gamebook.Json
