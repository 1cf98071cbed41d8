import Gamebook.Proofs.Play.Ending

/-!
# Turns

A playthrough goes turn by turn: a page is shown, a line is read and answered, and the next turn
begins where the answer leads. It stops with a last turn, in which the story is over, the input is
over, the line is no text or the answer is an error. Only where the input is over does it matter
that there are no more lines, so a playthrough never takes back what it wrote.

* `Book.Turns` are the turns before the last, `Book.LastTurn` is the last one.
* `Book.exists_turns`: every playthrough is made up of these.
* `splitLines_append_of_endsLine`: an input that is over at the end of a line may go on with other
  lines.
* `Book.play_append`: the playthrough of an input that goes on.
-/

namespace Gamebook

/-! ### Inputs that go on -/

/-- An input is empty or its last byte is a line feed. -/
def EndsLine (input : List UInt8) : Prop := input = [] ∨ input.getLast? = some 10

/-- What is left of an input that `EndsLine` ends the line as well. -/
private theorem EndsLine.tail {byte : UInt8} {rest : List UInt8} (h : EndsLine (byte :: rest)) :
    EndsLine rest := by
  rcases h with hnil | hlast
  · exact absurd hnil (List.cons_ne_nil byte rest)
  · cases rest with
    | nil => exact Or.inl rfl
    | cons next others => exact Or.inr (by rwa [List.getLast?_cons_cons] at hlast)

/-- When an input `EndsLine`, the lines of what comes behind it are lines of their own. -/
theorem splitLines_append_of_endsLine {input more : List UInt8} (h : EndsLine input) :
    splitLines (input ++ more) = splitLines input ++ splitLines more := by
  induction input with
  | nil => rfl
  | cons byte rest ih =>
    rw [List.cons_append, splitLines, splitLines, ih h.tail]
    by_cases hfeed : byte = 10
    · rw [if_pos hfeed, if_pos hfeed, List.cons_append]
    · -- the line of this byte is not over, so the rest has a line that it joins
      have hne : splitLines rest ≠ [] := by
        intro hnone
        have hrest : (splitLines rest).flatten = rest := flatten_splitLines
        rw [hnone, List.flatten_nil] at hrest
        rw [← hrest] at h
        exact hfeed (by simpa [EndsLine] using h)
      obtain ⟨line, lines, hlines⟩ := List.exists_cons_of_ne_nil hne
      rw [if_neg hfeed, if_neg hfeed, hlines]
      rfl

namespace Book

/-! ### The turns of a playthrough -/

/-- The turns that a player takes over some lines, with what happens in them and the player that
they lead to. -/
inductive Turns (book : Book) : Player → List (List UInt8) → List Event → Player → Prop where
  | nil {player : Player} : Turns book player [] [] player
  /-- A line is read in a scene that does not end the story, and answered without an error. -/
  | cons {player after other : Player} {scene : Scene} {line : List UInt8} {text : String}
      {reply : Reply} {rest : List (List UInt8)} {events : List Event}
      (hget : book.get player.scene = .ok scene) (hend : scene.isEnd = false)
      (hline : decodeText? line = some text) (hreply : book.reply player text = (after, .ok reply))
      (hrest : Turns book after rest events other) :
      Turns book player (line :: rest)
        (.shown (scene.page player) :: .replied reply :: events) other

/-- The turn with which a player stops before some lines. -/
inductive LastTurn (book : Book) (player : Player) : List (List UInt8) → Transcript → Prop where
  /-- The player stands in no scene of the book. -/
  | lost {lines : List (List UInt8)} {error : Error} (hget : book.get player.scene = .error error) :
      LastTurn book player lines ⟨[], .failed error⟩
  /-- The story is over. -/
  | finished {lines : List (List UInt8)} {scene : Scene}
      (hget : book.get player.scene = .ok scene) (hend : scene.isEnd = true) :
      LastTurn book player lines ⟨[.shown (scene.page player)], .finished⟩
  /-- The input is over. -/
  | inputEnded {scene : Scene} (hget : book.get player.scene = .ok scene)
      (hend : scene.isEnd = false) :
      LastTurn book player [] ⟨[.shown (scene.page player), .closed], .inputEnded⟩
  /-- The line that is read is no text. -/
  | notText {scene : Scene} {line : List UInt8} {rest : List (List UInt8)}
      (hget : book.get player.scene = .ok scene) (hend : scene.isEnd = false)
      (hline : decodeText? line = none) :
      LastTurn book player (line :: rest) ⟨[.shown (scene.page player)], .notText⟩
  /-- The line that is read is answered with an error. -/
  | failed {after : Player} {scene : Scene} {line : List UInt8} {text : String} {error : Error}
      {rest : List (List UInt8)} (hget : book.get player.scene = .ok scene)
      (hend : scene.isEnd = false) (hline : decodeText? line = some text)
      (hreply : book.reply player text = (after, .error error)) :
      LastTurn book player (line :: rest)
        ⟨[.shown (scene.page player), .replied .broken], .failed error⟩

variable {book : Book} {player other : Player} {scene : Scene} {lines more : List (List UInt8)}
  {events : List Event} {transcript : Transcript}

/-- The `Book.playLines` of a player who stops at once is the last turn. -/
theorem LastTurn.playLines_eq (h : book.LastTurn player lines transcript) :
    book.playLines player lines = transcript := by
  cases h with
  | lost hget =>
    rw [playLines.eq_def, present, page, hget]
    rfl
  | finished hget hend => exact playLines_of_isEnd hget hend
  | inputEnded hget hend => exact playLines_nil hget hend
  | notText hget hend hline => exact playLines_of_notText hget hend hline
  | failed hget hend hline hreply => exact playLines_of_error hget hend hline hreply

/-- A `LastTurn` remains the last whatever lines come behind, unless the input is over in it. -/
theorem LastTurn.append (h : book.LastTurn player lines transcript)
    (hending : transcript.ending ≠ .inputEnded) (more : List (List UInt8)) :
    book.LastTurn player (lines ++ more) transcript := by
  cases h with
  | lost hget => exact .lost hget
  | finished hget hend => exact .finished hget hend
  | inputEnded hget hend => exact absurd rfl hending
  | notText hget hend hline => exact .notText hget hend hline
  | failed hget hend hline hreply => exact .failed hget hend hline hreply

/-- After some `Turns` the playthrough goes on as that of the player whom they lead to. -/
theorem Turns.playLines_append (h : book.Turns player lines events other)
    (more : List (List UInt8)) :
    book.playLines player (lines ++ more) = (book.playLines other more).after events := by
  induction h with
  | nil => rfl
  | cons hget hend hline hreply _ ih =>
    rw [List.cons_append, playLines_of_reply hget hend hline hreply, ih]
    rfl

/-- Every playthrough is made up of `Turns` and a `LastTurn`. -/
theorem exists_turns (book : Book) (player : Player) (lines : List (List UInt8)) :
    ∃ before rest events other transcript, lines = before ++ rest ∧
      book.Turns player before events other ∧ book.LastTurn other rest transcript := by
  induction lines generalizing player with
  | nil =>
    cases hget : book.get player.scene with
    | error error => exact ⟨[], [], [], player, _, rfl, .nil, .lost hget⟩
    | ok scene =>
      cases hend : scene.isEnd with
      | true => exact ⟨[], [], [], player, _, rfl, .nil, .finished hget hend⟩
      | false => exact ⟨[], [], [], player, _, rfl, .nil, .inputEnded hget hend⟩
  | cons line others ih =>
    cases hget : book.get player.scene with
    | error error => exact ⟨[], _, [], player, _, rfl, .nil, .lost hget⟩
    | ok scene =>
      cases hend : scene.isEnd with
      | true => exact ⟨[], _, [], player, _, rfl, .nil, .finished hget hend⟩
      | false =>
        cases hline : decodeText? line with
        | none => exact ⟨[], _, [], player, _, rfl, .nil, .notText hget hend hline⟩
        | some text =>
          rcases hreply : book.reply player text with ⟨after, error | reply⟩
          · exact ⟨[], _, [], player, _, rfl, .nil, .failed hget hend hline hreply⟩
          · obtain ⟨before, rest, events, other, transcript, rfl, hturns, hlast⟩ := ih after
            exact ⟨line :: before, rest, _, other, transcript, rfl,
              .cons hget hend hline hreply hturns, hlast⟩

/-! ### Inputs that go on -/

/-- Where the story is not over, `Book.playLines` shows the page first, whatever is typed. -/
theorem exists_playLines_eq_shown (hget : book.get player.scene = .ok scene)
    (hend : scene.isEnd = false) (lines : List (List UInt8)) :
    ∃ events ending,
      book.playLines player lines = ⟨.shown (scene.page player) :: events, ending⟩ := by
  cases lines with
  | nil => exact ⟨_, _, playLines_nil hget hend⟩
  | cons line rest =>
    rw [playLines_cons hget hend]
    split
    · exact ⟨_, _, rfl⟩
    · exact ⟨_, _, rfl⟩

/-- A playthrough that stops before its input is over is not changed by more lines. -/
private theorem playLines_append_of_ne (h : (book.playLines player lines).ending ≠ .inputEnded)
    (more : List (List UInt8)) :
    book.playLines player (lines ++ more) = book.playLines player lines := by
  obtain ⟨before, rest, events, other, transcript, rfl, hturns, hlast⟩ :=
    exists_turns book player lines
  rw [hturns.playLines_append, hlast.playLines_eq] at h ⊢
  rw [List.append_assoc, hturns.playLines_append, (hlast.append h more).playLines_eq]

/-- A playthrough that is `Ending.inputEnded` stops at a prompt, and with more lines it writes the
same up to there. -/
private theorem exists_prompt_of_inputEnded (style : Style)
    (h : (book.playLines player lines).ending = .inputEnded) :
    ∃ before, "> ".toList <:+ before.toList ∧
      (book.playLines player lines).render style = before ++ "\n" ∧
      ∀ more, before.toList <+: ((book.playLines player (lines ++ more)).render style).toList := by
  obtain ⟨taken, rest, events, other, transcript, rfl, hturns, hlast⟩ :=
    exists_turns book player lines
  rw [hturns.playLines_append, hlast.playLines_eq] at h ⊢
  cases hlast with
  | lost hget | finished hget hend | notText hget hend hline | failed hget hend hline hreply =>
    exact absurd h nofun
  | @inputEnded scene hget hend =>
    obtain ⟨front, hpage⟩ := (scene.page other).exists_render_of_not_isEnd style hend
    refine ⟨String.join (events.map (·.render style)) ++ (scene.page other).render style,
      ?_, ?_, fun more => ?_⟩
    · rw [hpage, String.toList_append, String.toList_append]
      exact (List.suffix_append _ _).trans (List.suffix_append _ _)
    · rw [Transcript.render_after, Transcript.render_cons, Transcript.render_cons,
        Transcript.render_nil, String.append_empty, ← String.append_assoc]
      rfl
    · -- what is shown before the line is read does not depend on the line
      obtain ⟨later, ending, hshown⟩ := exists_playLines_eq_shown hget hend more
      rw [List.append_nil, hturns.playLines_append, hshown, Transcript.render_after,
        Transcript.render_cons, ← String.append_assoc]
      exact ⟨_, String.toList_append.symm⟩

/-- What becomes of `Book.play` when its input goes on, after an input that is empty or ends a line.
If the story was over before the input, or there was an error, the output and the result are the
same. If the input was over first, the output was some text that ends with a prompt, and a line
feed; the output now begins with that text. -/
theorem play_append (book : Book) (style : Style) {input : List UInt8} (h : EndsLine input)
    (more : List UInt8) :
    ((book.play input).ending = .finished ∨ (book.play input).ending = .notText ∨
        (∃ error, (book.play input).ending = .failed error) →
      (book.play (input ++ more)).render style = (book.play input).render style ∧
        (book.play (input ++ more)).ending = (book.play input).ending) ∧
    ((book.play input).ending = .inputEnded →
      ∃ before, "> ".toList <:+ before.toList ∧
        (book.play input).render style = before ++ "\n" ∧
        before.toList <+: ((book.play (input ++ more)).render style).toList) := by
  rw [play, play, splitLines_append_of_endsLine h]
  constructor
  · intro hstop
    have hne : (book.playLines book.newPlayer (splitLines input)).ending ≠ .inputEnded := by
      rcases hstop with hover | hbad | ⟨error, hfail⟩
      · simp [hover]
      · simp [hbad]
      · simp [hfail]
    rw [playLines_append_of_ne hne]
    exact ⟨rfl, rfl⟩
  · intro hopen
    obtain ⟨before, hprompt, hrender, hstart⟩ := exists_prompt_of_inputEnded style hopen
    exact ⟨before, hprompt, hrender, hstart (splitLines more)⟩

/-- The way out of `cellBook` is not changed by a byte behind it that is no text, and up to the
prompt that waits for the second number the output is the same whether or not it comes. -/
theorem play_append_paddedInput :
    (EndsLine paddedInput ∧ (cellBook.play paddedInput).ending = .finished ∧
      (cellBook.play (paddedInput ++ [0xFF])).render ⟨defaultFallback, true, true⟩ =
        (cellBook.play paddedInput).render ⟨defaultFallback, true, true⟩ ∧
      (cellBook.play (paddedInput ++ [0xFF])).ending = (cellBook.play paddedInput).ending) ∧
    (EndsLine (paddedInput.take 4) ∧ (cellBook.play (paddedInput.take 4)).ending = .inputEnded ∧
      ∃ before, "> ".toList <:+ before.toList ∧
        (cellBook.play (paddedInput.take 4)).render ⟨defaultFallback, true, true⟩ =
          before ++ "\n" ∧
        before.toList <+: ((cellBook.play (paddedInput.take 4 ++ paddedInput.drop 4)).render
          ⟨defaultFallback, true, true⟩).toList) := by
  have hall : EndsLine paddedInput := Or.inr (by decide)
  have hfirst : EndsLine (paddedInput.take 4) := Or.inr (by decide)
  have hover : (cellBook.play paddedInput).ending = .finished := by decide
  have hopen : (cellBook.play (paddedInput.take 4)).ending = .inputEnded := by decide
  exact ⟨⟨hall, hover, (play_append cellBook _ hall [0xFF]).1 (Or.inl hover)⟩,
    ⟨hfirst, hopen, (play_append cellBook _ hfirst (paddedInput.drop 4)).2 hopen⟩⟩

end Book

end Gamebook
