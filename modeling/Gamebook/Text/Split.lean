/-!
# Splitting texts

A text is split at each occurrence of a character, which belongs to no part.

* `splitAt_flatMap`: a text of pieces that each end with the character is split into the pieces.
-/

namespace Gamebook.Text

/-- The parts of a text between the occurrences of the character `mark`. -/
def splitAt (mark : Char) : List Char → List (List Char)
  | [] => [[]]
  | c :: rest =>
    if c = mark then [] :: splitAt mark rest
    else
      match splitAt mark rest with
      | [] => [[c]]
      | part :: parts => (c :: part) :: parts

/-- What stands before the first `mark` is the first part. -/
private theorem splitAt_append_cons {mark : Char} {front rest : List Char} (h : mark ∉ front) :
    splitAt mark (front ++ mark :: rest) = front :: splitAt mark rest := by
  induction front with
  | nil => rw [List.nil_append, splitAt, if_pos rfl]
  | cons c more ih =>
    rw [List.mem_cons, not_or] at h
    rw [List.cons_append, splitAt, if_neg (Ne.symm h.1), ih h.2]

/-- A text of `pieces` that each end with `mark` is split into the pieces, and nothing is left
behind the last of them. -/
theorem splitAt_flatMap {mark : Char} {pieces : List (List Char)}
    (h : ∀ piece ∈ pieces, mark ∉ piece) :
    splitAt mark (pieces.flatMap (· ++ [mark])) = pieces ++ [[]] := by
  induction pieces with
  | nil => rfl
  | cons piece more ih =>
    rw [List.forall_mem_cons] at h
    rw [List.flatMap_cons, List.append_assoc, List.singleton_append, splitAt_append_cons h.1,
      ih h.2, List.cons_append]

end Gamebook.Text
