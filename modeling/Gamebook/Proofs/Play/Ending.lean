import Gamebook.Console.Outcome
import Gamebook.Proofs.Play.Replay

/-!
# The ending of a playthrough

What a playthrough returns and what it writes last. A story that is over says so, an input that is
over closes the line of the prompt, and any other ending returns an error with its text. So the
output and the result together tell where the replay of the input stopped.

* `Book.suffix_of_replay`: a playthrough ends with the last words of its ending.
* `Book.finished_iff_suffix` and `Book.inputEnded_iff_suffix`: the two endings without an error.
* `Book.play_refines_replay`: a playthrough of any input refines the replay of its lines.
-/

namespace Gamebook

/-! ### Results and last words -/

/-- What a playthrough with this `Ending` returns: nothing, or the text of the error that stopped
it. -/
def Ending.result : Ending → Except String Unit
  | .finished | .inputEnded => .ok ()
  | .notText => .error ReadFault.notText.message
  | .failed error => .error error.message

/-- `Ending.result` is an error exactly when the playthrough came to a line that is no text, or to a
selection that failed, and then the text of that error. -/
private theorem Ending.result_eq_error_iff {ending : Ending} {text : String} :
    ending.result = .error text ↔
      ending = .notText ∧ text = ReadFault.notText.message ∨
        ∃ error, ending = .failed error ∧ text = error.message := by
  cases ending <;> simp [Ending.result, eq_comm]

/-- The words with which a playthrough with this `Ending` ends. -/
def Ending.lastWords : Ending → String
  | .finished => "Game ended.\n"
  | .inputEnded | .failed _ => "> \n"
  | .notText => "> "

/-- No text ends both with the end of a story and with a closed prompt. -/
private theorem not_suffix_of_suffix {cs : List Char} (h : "> \n".toList <:+ cs) :
    ¬"Game ended.\n".toList <:+ cs := by
  intro hover
  have hboth := List.suffix_of_suffix_length_le h hover (by decide)
  exact absurd hboth (by decide)

section Style

variable (style : Style)

/-- `Page.render` tells the end of a story last. -/
private theorem Page.render_of_isEnd {page : Page} (hend : page.isEnd = true) :
    page.render style = page.text ++ "\n\n" ++ "Game ended.\n" := by
  rw [Page.render, if_pos hend]

/-- `Page.render` ends with a prompt where the story goes on. -/
theorem Page.exists_render_of_not_isEnd {page : Page} (hend : page.isEnd = false) :
    ∃ before, page.render style = before ++ "> " := by
  refine ⟨page.text ++ "\n\n" ++ page.listing style ++ "\n", ?_⟩
  rw [Page.render, hend, if_neg Bool.false_ne_true, ← String.toList_inj]
  simp

namespace Transcript

variable {event : Event} {events : List Event} {ending : Ending}

@[simp]
theorem render_nil : (Transcript.mk [] ending).render style = "" := String.join_nil

@[simp]
theorem render_cons : (Transcript.mk (event :: events) ending).render style =
    event.render style ++ (Transcript.mk events ending).render style :=
  String.join_cons

/-- Events that `Transcript.after` puts in front are written in front. -/
theorem render_after (events : List Event) (transcript : Transcript) :
    (transcript.after events).render style =
      String.join (events.map (·.render style)) ++ transcript.render style := by
  rw [render, render, events_after, List.map_append, String.join_append]

/-- What is written after the page of a story that goes on follows a prompt. -/
private theorem exists_render_shown {page : Page} (hend : page.isEnd = false) :
    ∃ before, (Transcript.mk (.shown page :: events) ending).render style =
      before ++ ("> " ++ (Transcript.mk events ending).render style) := by
  obtain ⟨before, hpage⟩ := page.exists_render_of_not_isEnd style hend
  exact ⟨before, by rw [render_cons, Event.render, hpage, String.append_assoc]⟩

end Transcript

end Style

namespace Book

variable {book : Book} {player : Player} {lines : List (List UInt8)} {ending : Ending}

/-! ### What is written last -/

section Last

variable (style : Style)

/-- A playthrough ends with the `Ending.lastWords` of its ending. -/
private theorem exists_render_of_replay (h : book.Replay player lines ending) :
    ∃ before, (book.playLines player lines).render style = before ++ ending.lastWords := by
  refine h.playLines_induction
    (P := fun ending transcript => ∃ before, transcript.render style = before ++ ending.lastWords)
    ?_ ?_ ?_ ?_ ?_
  · intro page hend
    refine ⟨page.text ++ "\n\n", ?_⟩
    rw [Transcript.render_cons, Transcript.render_nil, String.append_empty, Event.render,
      Page.render_of_isEnd style hend]
    rfl
  · -- an input that ended closes the line of the prompt
    intro page hend
    exact Transcript.exists_render_shown style hend
  · intro page hend
    exact Transcript.exists_render_shown style hend
  · intro page error hend
    exact Transcript.exists_render_shown style hend
  · intro page reply ending transcript _ ⟨before, hlast⟩
    refine ⟨String.join ([Event.shown page, .replied reply].map (·.render style)) ++ before, ?_⟩
    rw [Transcript.render_after, hlast, ← String.append_assoc]

/-- The `Ending.lastWords` of a playthrough are a suffix of what it writes. -/
theorem suffix_of_replay (h : book.Replay player lines ending) :
    ending.lastWords.toList <:+ ((book.playLines player lines).render style).toList := by
  obtain ⟨before, hlast⟩ := exists_render_of_replay style h
  rw [hlast, String.toList_append]
  exact List.suffix_append _ _

/-- A playthrough succeeds and writes the end of a story last exactly when its `Book.Replay` is
`Ending.finished`. -/
theorem finished_iff_suffix (h : book.Replay player lines ending) :
    (ending.result = .ok () ∧
      "Game ended.\n".toList <:+ ((book.playLines player lines).render style).toList) ↔
      ending = .finished := by
  have hsuffix := suffix_of_replay style h
  cases ending with
  | finished => exact iff_of_true ⟨rfl, hsuffix⟩ rfl
  | inputEnded => exact iff_of_false (fun hover => not_suffix_of_suffix hsuffix hover.2) nofun
  | notText => exact iff_of_false (fun hover => nomatch hover.1) nofun
  | failed error => exact iff_of_false (fun hover => nomatch hover.1) nofun

/-- A playthrough succeeds and closes a prompt last exactly when its `Book.Replay` is
`Ending.inputEnded`. -/
theorem inputEnded_iff_suffix (h : book.Replay player lines ending) :
    (ending.result = .ok () ∧
      "> \n".toList <:+ ((book.playLines player lines).render style).toList) ↔
      ending = .inputEnded := by
  have hsuffix := suffix_of_replay style h
  cases ending with
  | finished => exact iff_of_false (fun hopen => not_suffix_of_suffix hopen.2 hsuffix) nofun
  | inputEnded => exact iff_of_true ⟨rfl, hsuffix⟩ rfl
  | notText => exact iff_of_false (fun hopen => nomatch hopen.1) nofun
  | failed error => exact iff_of_false (fun hopen => nomatch hopen.1) nofun

end Last

/-! ### The refinement -/

/-- The playthrough of a book from any input returns, and it refines the replay of the lines of
the input, which stops somewhere. It succeeds and ends with the end of the story exactly when the
replay comes to an end scene; it succeeds and ends with a closed prompt exactly when the replay
uses up all lines before that; it returns an error exactly when the replay stops at a selection
that fails, with the text of its error, or at a line that is no text. Texts whose lines give the
same numbers lead to the same output and the same result. -/
theorem play_refines_replay {policy : DeadEndPolicy} {story : Story}
    (hbook : ofStory policy story = .ok book) (style : Style) (input : List UInt8) :
    (∃ ending, book.Replay book.newPlayer (splitLines input) ending) ∧
    ((book.play input).ending.result = .ok () ∧
        "Game ended.\n".toList <:+ ((book.play input).render style).toList ↔
      book.Replay book.newPlayer (splitLines input) .finished) ∧
    ((book.play input).ending.result = .ok () ∧
        "> \n".toList <:+ ((book.play input).render style).toList ↔
      book.Replay book.newPlayer (splitLines input) .inputEnded) ∧
    (∀ text, (book.play input).ending.result = .error text ↔
      book.Replay book.newPlayer (splitLines input) .notText ∧
          text = ReadFault.notText.message ∨
        ∃ error, book.Replay book.newPlayer (splitLines input) (.failed error) ∧
          text = error.message) ∧
    ∀ other, (decodeText? input).isSome = true → (decodeText? other).isSome = true →
      (splitLines input).map typed? = (splitLines other).map typed? →
        (book.play input).render style = (book.play other).render style ∧
          (book.play input).ending.result = (book.play other).ending.result := by
  have hwell := wellFormed_of_ofStory hbook
  have hstart : book.newPlayer.scene ∈ book.scenes.map (·.id) := hwell.start_mem
  obtain ⟨ending, hreplay⟩ := hwell.exists_replay hstart (splitLines input)
  have hending : (book.play input).ending = ending := ending_of_replay hreplay
  have hiff : ∀ e, book.Replay book.newPlayer (splitLines input) e ↔ ending = e := by
    intro e
    rw [hwell.replay_iff hstart]
    exact hending ▸ Iff.rfl
  rw [hending]
  refine ⟨⟨ending, hreplay⟩, ?_, ?_, fun text => ?_, fun other hinput hother h => ?_⟩
  · exact (finished_iff_suffix style hreplay).trans (hiff _).symm
  · exact (inputEnded_iff_suffix style hreplay).trans (hiff _).symm
  · simp only [hiff]
    exact Ending.result_eq_error_iff
  · rw [← play_congr hinput hother h, hending]
    exact ⟨rfl, rfl⟩

/-! ### Two inputs with the same numbers -/

/-- The bytes of an input that gives two numbers, the second of them in a line without a line
feed. -/
def bareInput : List UInt8 := "2\n01".toList.flatMap String.utf8EncodeChar

/-- The bytes of another input that gives the same numbers. -/
def paddedInput : List UInt8 := "+2 \n\t1\n".toList.flatMap String.utf8EncodeChar

/-- `bareInput` and `paddedInput` are texts, and their lines give the same numbers. -/
private theorem map_typed?_bareInput : (decodeText? bareInput).isSome = true ∧
    (decodeText? paddedInput).isSome = true ∧
    (splitLines bareInput).map typed? = (splitLines paddedInput).map typed? := by
  have hbare : splitLines bareInput =
      ["2\n".toList, "01".toList].map (·.flatMap String.utf8EncodeChar) := by decide
  have hpadded : splitLines paddedInput =
      ["+2 \n".toList, "\t1\n".toList].map (·.flatMap String.utf8EncodeChar) := by decide
  have htyped : ∀ cs : List Char, typed? (cs.flatMap String.utf8EncodeChar) =
      Selection.ofText? (.ofList cs) := fun cs => typed?_of_decodeText? (decodeText?_flatMap cs)
  refine ⟨isSome_decodeText?_iff.mpr ⟨_, rfl⟩, isSome_decodeText?_iff.mpr ⟨_, rfl⟩, ?_⟩
  rw [hbare, hpadded]
  simp only [List.map_cons, List.map_nil, htyped]
  decide

/-- Both inputs lead out of `cellBook` in the same way. -/
theorem play_refines_replay_of_bareInput : ofStory .warn cellStory = .ok cellBook ∧
    (∃ ending, cellBook.Replay cellBook.newPlayer (splitLines bareInput) ending) ∧
    ((cellBook.play bareInput).ending.result = .ok () ∧
        "Game ended.\n".toList <:+
          ((cellBook.play bareInput).render ⟨defaultFallback, true, true⟩).toList ↔
      cellBook.Replay cellBook.newPlayer (splitLines bareInput) .finished) ∧
    ((cellBook.play bareInput).ending.result = .ok () ∧
        "> \n".toList <:+
          ((cellBook.play bareInput).render ⟨defaultFallback, true, true⟩).toList ↔
      cellBook.Replay cellBook.newPlayer (splitLines bareInput) .inputEnded) ∧
    (∀ text, (cellBook.play bareInput).ending.result = .error text ↔
      cellBook.Replay cellBook.newPlayer (splitLines bareInput) .notText ∧
          text = ReadFault.notText.message ∨
        ∃ error, cellBook.Replay cellBook.newPlayer (splitLines bareInput) (.failed error) ∧
          text = error.message) ∧
    (decodeText? bareInput).isSome = true ∧ (decodeText? paddedInput).isSome = true ∧
    (splitLines bareInput).map typed? = (splitLines paddedInput).map typed? ∧
    (cellBook.play bareInput).render ⟨defaultFallback, true, true⟩ =
        (cellBook.play paddedInput).render ⟨defaultFallback, true, true⟩ ∧
      (cellBook.play bareInput).ending.result = (cellBook.play paddedInput).ending.result := by
  obtain ⟨hstops, hfinished, hclosed, herror, hsame⟩ :=
    play_refines_replay ofStory_cellStory ⟨defaultFallback, true, true⟩ bareInput
  obtain ⟨hbare, hpadded, hnumbers⟩ := map_typed?_bareInput
  exact ⟨ofStory_cellStory, hstops, hfinished, hclosed, herror, hbare, hpadded, hnumbers,
    hsame paddedInput hbare hpadded hnumbers⟩

end Book

end Gamebook
