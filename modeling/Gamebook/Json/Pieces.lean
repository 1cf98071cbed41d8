import Gamebook.Json.Chars
import Gamebook.Json.Token

/-!
# Reading strings and names

A string runs to the quote with which it started and a name as long as its characters go on.
Both are given back as pieces, with the rest of the text.

* `length_readPieces`: a string leaves a shorter text.
* `length_readName`: a name takes at least one character for each piece.
-/

namespace Gamebook.Json

/-- The list of `Piece` of a string up to its closing quote. A backslash at the end of a line joins
the line to the next and is no piece. -/
def readPieces (quote : Char) : List Char → Option (List Piece × List Char)
  | [] => none
  | c :: rest =>
    if c = quote then some ([], rest)
    else if isLineEnd c then none
    else if c ≠ '\\' then (readPieces quote rest).map fun (ps, after) => (.plain c :: ps, after)
    else
      match rest with
      | [] => none
      | '\r' :: '\n' :: rest => readPieces quote rest
      | 'x' :: a :: b :: rest =>
        match hexValue? [a, b] with
        | none => none
        | some n => (readPieces quote rest).map fun (ps, after) => (.byte (.ofNat n) :: ps, after)
      | 'u' :: a :: b :: c :: d :: rest =>
        match hexValue? [a, b, c, d] with
        | none => none
        | some n => (readPieces quote rest).map fun (ps, after) => (.unit (.ofNat n) :: ps, after)
      | e :: rest =>
        if isLineEnd e then readPieces quote rest
        else if e = '0' then (readPieces quote rest).map fun (ps, after) => (.nul :: ps, after)
        else if e.isDigit || e == 'x' || e == 'u' then none
        else (readPieces quote rest).map fun (ps, after) => (.escaped e :: ps, after)

/-- The list of `Piece` of a name, as many as there are. -/
def readName : List Char → List Piece × List Char
  | '\\' :: 'u' :: a :: b :: c :: d :: rest =>
    match hexValue? [a, b, c, d] with
    | none => ([], '\\' :: 'u' :: a :: b :: c :: d :: rest)
    | some n => (.unit (.ofNat n) :: (readName rest).1, (readName rest).2)
  | c :: rest =>
    if continuesName c then (.plain c :: (readName rest).1, (readName rest).2)
    else ([], c :: rest)
  | [] => ([], [])

theorem length_readPieces {quote : Char} {cs after : List Char} {pieces : List Piece}
    (h : readPieces quote cs = some (pieces, after)) : after.length < cs.length := by
  fun_induction readPieces quote cs generalizing pieces with
  | case1 => exact absurd h (by simp)
  | case2 =>
    cases h
    exact Nat.lt_succ_self _
  | case3 => exact absurd h (by simp)
  | case4 c rest _ _ _ ih =>
    obtain ⟨⟨ps, r⟩, hread, heq⟩ := Option.map_eq_some_iff.mp h
    cases heq
    exact Nat.lt_succ_of_lt (ih hread)
  | case5 => exact absurd h (by simp)
  | case6 c _ _ _ rest ih =>
    have := ih h
    simp only [List.length_cons]
    omega
  | case7 => exact absurd h (by simp)
  | case8 c _ _ _ a b rest n _ ih =>
    obtain ⟨⟨ps, r⟩, hread, heq⟩ := Option.map_eq_some_iff.mp h
    cases heq
    have := ih hread
    simp only [List.length_cons]
    omega
  | case9 => exact absurd h (by simp)
  | case10 c _ _ _ a b d e rest n _ ih =>
    obtain ⟨⟨ps, r⟩, hread, heq⟩ := Option.map_eq_some_iff.mp h
    cases heq
    have := ih hread
    simp only [List.length_cons]
    omega
  | case11 c _ _ _ e rest _ _ _ _ ih =>
    have := ih h
    simp only [List.length_cons]
    omega
  | case12 c _ _ _ rest _ _ _ _ ih =>
    obtain ⟨⟨ps, r⟩, hread, heq⟩ := Option.map_eq_some_iff.mp h
    cases heq
    have := ih hread
    simp only [List.length_cons]
    omega
  | case13 => exact absurd h (by simp)
  | case14 c _ _ _ e rest _ _ _ _ _ _ ih =>
    obtain ⟨⟨ps, r⟩, hread, heq⟩ := Option.map_eq_some_iff.mp h
    cases heq
    have := ih hread
    simp only [List.length_cons]
    omega

/-- `readName` takes at least as many characters as it gives pieces. -/
theorem length_readName (cs : List Char) :
    (readName cs).1.length + (readName cs).2.length ≤ cs.length := by
  fun_induction readName cs with
  | case1 => simp
  | case2 a b c d rest n _ ih =>
    simp only [List.length_cons] at *
    omega
  | case3 c rest _ _ ih =>
    simp only [List.length_cons] at *
    omega
  | case4 => simp
  | case5 => simp

end Gamebook.Json
