import Gamebook.Proofs.Play.Line
import Gamebook.Proofs.Play.Run

/-!
# Playthroughs and replays

A replay takes the lines of an input one by one and selects the numbers that they give, without
showing anything. It stops as soon as the player stands in an end scene, a selection fails or a
line is no text, and where the lines come to their end. A playthrough stops where the replay of its
lines stops.

* `Book.Replay` is the replay, as a relation between the player, the lines and the ending.
* `Book.WellFormed.replay_iff`: the ending of a playthrough is the ending of the replay, and there
  is one.
* `Book.Replay.playLines_induction`: the playthrough of a replay's lines, turn by turn.
* `Book.playLines_congr`: a playthrough depends on the numbers that its lines give.
-/

namespace Gamebook

/-- A `Scene.page` is an end exactly when its scene is one. -/
theorem Scene.isEnd_page {scene : Scene} {player : Player} :
    (scene.page player).isEnd = scene.isEnd := rfl

namespace Book

/-- Where the replay of lines by a player stops. -/
inductive Replay (book : Book) : Player → List (List UInt8) → Ending → Prop where
  /-- The player stands in an end scene, whatever lines are left. -/
  | finished {player : Player} {lines : List (List UInt8)}
      (hend : book.isFinished player = .ok true) : Replay book player lines .finished
  /-- No line is left. -/
  | inputEnded {player : Player} (hend : book.isFinished player = .ok false) :
      Replay book player [] .inputEnded
  /-- The next line is no text. -/
  | notText {player : Player} {line : List UInt8} {rest : List (List UInt8)}
      (hend : book.isFinished player = .ok false) (hline : decodeText? line = none) :
      Replay book player (line :: rest) .notText
  /-- The selection of the number that the next line gives fails. -/
  | failed {player : Player} {line : List UInt8} {rest : List (List UInt8)} {text : String}
      {number : UInt32} {error : Error} (hend : book.isFinished player = .ok false)
      (hline : decodeText? line = some text) (hnumber : Selection.ofText? text = some number)
      (herror : (book.select player number).2 = .error error) :
      Replay book player (line :: rest) (.failed error)
  /-- A line that gives no number changes nothing. -/
  | skipped {player : Player} {line : List UInt8} {rest : List (List UInt8)} {text : String}
      {ending : Ending} (hend : book.isFinished player = .ok false)
      (hline : decodeText? line = some text) (hnumber : Selection.ofText? text = none)
      (hrest : Replay book player rest ending) : Replay book player (line :: rest) ending
  /-- The number that a line gives is selected. -/
  | selected {player : Player} {line : List UInt8} {rest : List (List UInt8)} {text : String}
      {number : UInt32} {answer : Answer} {ending : Ending}
      (hend : book.isFinished player = .ok false) (hline : decodeText? line = some text)
      (hnumber : Selection.ofText? text = some number)
      (hanswer : (book.select player number).2 = .ok answer)
      (hrest : Replay book (book.select player number).1 rest ending) :
      Replay book player (line :: rest) ending

variable {book : Book} {player : Player} {scene : Scene} {line : List UInt8}
  {lines rest : List (List UInt8)} {text : String} {number : UInt32} {ending : Ending}

/-! ### One turn of a playthrough -/

/-- The `Book.reply` to a line that gives no number leaves the player alone. -/
theorem reply_of_none (h : Selection.ofText? text = none) :
    book.reply player text = (player, .ok .notANumber) := by
  rw [reply, h]

/-- The `Book.reply` to a line that gives a number is the answer to its selection. -/
theorem reply_of_some (h : Selection.ofText? text = some number) :
    book.reply player text =
      ((book.select player number).1, (book.select player number).2.map .answered) := by
  rw [reply, h]

/-- A line that is no text stops the playthrough in `Book.respond`, without a reply. -/
private theorem respond_of_notText (hline : decodeText? line = none) :
    book.respond player line = ([], .error .notText) := by
  rw [respond, hline]

/-- After a `Book.reply` the playthrough goes on with the player whom it leads to. -/
private theorem respond_of_reply (hline : decodeText? line = some text) {after : Player}
    {reply : Reply} (hreply : book.reply player text = (after, .ok reply)) :
    book.respond player line = ([.replied reply], .ok after) := by
  rw [respond, hline]
  dsimp only
  rw [hreply]

/-- A `Book.reply` that fails stops the playthrough in `Book.respond`. -/
private theorem respond_of_error (hline : decodeText? line = some text) {after : Player}
    {error : Error} (hreply : book.reply player text = (after, .error error)) :
    book.respond player line = ([.replied .broken], .error (.failed error)) := by
  rw [respond, hline]
  dsimp only
  rw [hreply]

section Turn

variable (hget : book.get player.scene = .ok scene)

include hget

/-- `Book.present` shows a player the scene where the player stands, and stops the playthrough if it
is an end. -/
private theorem present_of_get :
    book.present player =
      ([.shown (scene.page player)], if scene.isEnd then some .finished else none) := by
  rw [present, page_of_get hget]
  rfl

/-- In an end scene `Book.playLines` is over. -/
theorem playLines_of_isEnd (hend : scene.isEnd = true) :
    book.playLines player lines = ⟨[.shown (scene.page player)], .finished⟩ := by
  rw [playLines.eq_def, present_of_get hget, if_pos hend]

variable (hend : scene.isEnd = false)

include hend

/-- `Book.playLines` ends with its input. -/
theorem playLines_nil :
    book.playLines player [] = ⟨[.shown (scene.page player), .closed], .inputEnded⟩ := by
  rw [playLines.eq_def, present_of_get hget, hend]
  rfl

/-- With a line `Book.playLines` shows the page and goes on as `Book.respond` says. -/
theorem playLines_cons (line : List UInt8) (rest : List (List UInt8)) :
    book.playLines player (line :: rest) =
      match book.respond player line with
      | (events, .error ending) => ⟨.shown (scene.page player) :: events, ending⟩
      | (events, .ok after) =>
        (book.playLines after rest).after (.shown (scene.page player) :: events) := by
  rw [playLines.eq_def, present_of_get hget, hend]
  rfl

/-- `Book.playLines` stops at a line that is no text. -/
theorem playLines_of_notText (hline : decodeText? line = none) :
    book.playLines player (line :: rest) = ⟨[.shown (scene.page player)], .notText⟩ := by
  rw [playLines_cons hget hend, respond_of_notText hline]

/-- After a reply `Book.playLines` goes on from where the reply left the player. -/
theorem playLines_of_reply (hline : decodeText? line = some text) {after : Player} {reply : Reply}
    (hreply : book.reply player text = (after, .ok reply)) :
    book.playLines player (line :: rest) =
      (book.playLines after rest).after [.shown (scene.page player), .replied reply] := by
  rw [playLines_cons hget hend, respond_of_reply hline hreply]

/-- `Book.playLines` stops at a reply that fails. -/
theorem playLines_of_error (hline : decodeText? line = some text) {after : Player} {error : Error}
    (hreply : book.reply player text = (after, .error error)) :
    book.playLines player (line :: rest) =
      ⟨[.shown (scene.page player), .replied .broken], .failed error⟩ := by
  rw [playLines_cons hget hend, respond_of_error hline hreply]

end Turn

/-! ### The shape of a replay -/

/-- Whoever gets an answer from `Book.isFinished` stands in a scene of the book. -/
private theorem exists_get_of_isFinished {isEnd : Bool} (h : book.isFinished player = .ok isEnd) :
    ∃ scene, book.get player.scene = .ok scene ∧ scene.isEnd = isEnd := by
  rw [isFinished] at h
  cases hget : book.get player.scene with
  | error error =>
    rw [hget] at h
    exact absurd h (by simp [Except.map])
  | ok scene =>
    rw [hget] at h
    exact ⟨scene, rfl, Except.ok.inj h⟩

/-- What `Book.playLines` does with a replay's lines turn by turn. A predicate on endings and
transcripts holds of the whole when it holds of every last turn and passes over every other. -/
theorem Replay.playLines_induction {P : Ending → Transcript → Prop}
    (hfinished : ∀ {page}, page.isEnd = true → P .finished ⟨[.shown page], .finished⟩)
    (hclosed : ∀ {page}, page.isEnd = false → P .inputEnded ⟨[.shown page, .closed], .inputEnded⟩)
    (hnotText : ∀ {page}, page.isEnd = false → P .notText ⟨[.shown page], .notText⟩)
    (hfailed : ∀ {page error}, page.isEnd = false →
      P (.failed error) ⟨[.shown page, .replied .broken], .failed error⟩)
    (hturn : ∀ {page reply ending transcript}, page.isEnd = false → P ending transcript →
      P ending (transcript.after [.shown page, .replied reply]))
    (h : book.Replay player lines ending) : P ending (book.playLines player lines) := by
  -- each step of the replay knows that the scene is there, so the page is one of the book's pages
  induction h with
  | finished hend =>
    obtain ⟨scene, hget, hscene⟩ := exists_get_of_isFinished hend
    rw [playLines_of_isEnd hget hscene]
    exact hfinished hscene
  | inputEnded hend =>
    obtain ⟨scene, hget, hscene⟩ := exists_get_of_isFinished hend
    rw [playLines_nil hget hscene]
    exact hclosed hscene
  | notText hend hline =>
    obtain ⟨scene, hget, hscene⟩ := exists_get_of_isFinished hend
    rw [playLines_of_notText hget hscene hline]
    exact hnotText hscene
  | failed hend hline hnumber herror =>
    obtain ⟨scene, hget, hscene⟩ := exists_get_of_isFinished hend
    rw [playLines_of_error hget hscene hline ((reply_of_some hnumber).trans (by rw [herror]; rfl))]
    exact hfailed hscene
  | skipped hend hline hnumber _ ih =>
    obtain ⟨scene, hget, hscene⟩ := exists_get_of_isFinished hend
    rw [playLines_of_reply hget hscene hline (reply_of_none hnumber)]
    exact hturn hscene ih
  | selected hend hline hnumber hanswer _ ih =>
    obtain ⟨scene, hget, hscene⟩ := exists_get_of_isFinished hend
    rw [playLines_of_reply hget hscene hline
      ((reply_of_some hnumber).trans (by rw [hanswer]; rfl))]
    exact hturn hscene ih

/-! ### The ending -/

/-- `Book.playLines` ends where the `Book.Replay` of its lines stops. -/
theorem ending_of_replay (h : book.Replay player lines ending) :
    (book.playLines player lines).ending = ending :=
  h.playLines_induction (P := fun ending transcript => transcript.ending = ending)
    (fun _ => rfl) (fun _ => rfl) (fun _ => rfl) (fun _ => rfl) (fun _ ih => ih)

/-- The `Book.Replay` of a player who stands in a scene of the book stops somewhere. -/
theorem WellFormed.exists_replay (hbook : book.WellFormed)
    (h : player.scene ∈ book.scenes.map (·.id)) (lines : List (List UInt8)) :
    ∃ ending, book.Replay player lines ending := by
  -- a selection leads to a scene of the book again, so the player never gets lost on the way
  induction lines generalizing player with
  | nil =>
    obtain ⟨scene, -, -, hget⟩ := hbook.exists_get h
    cases hend : scene.isEnd with
    | true => exact ⟨_, .finished ((isFinished_of_get hget).trans (by rw [hend]))⟩
    | false => exact ⟨_, .inputEnded ((isFinished_of_get hget).trans (by rw [hend]))⟩
  | cons line rest ih =>
    obtain ⟨scene, -, -, hget⟩ := hbook.exists_get h
    cases hend : scene.isEnd with
    | true => exact ⟨_, .finished ((isFinished_of_get hget).trans (by rw [hend]))⟩
    | false =>
      have hopen : book.isFinished player = .ok false :=
        (isFinished_of_get hget).trans (by rw [hend])
      cases hline : decodeText? line with
      | none => exact ⟨_, .notText hopen hline⟩
      | some text =>
        cases hnumber : Selection.ofText? text with
        | none =>
          obtain ⟨ending, hrest⟩ := ih h
          exact ⟨ending, .skipped hopen hline hnumber hrest⟩
        | some number =>
          cases hselect : (book.select player number).2 with
          | error error => exact ⟨_, .failed hopen hline hnumber hselect⟩
          | ok answer =>
            obtain ⟨ending, hrest⟩ := ih (hbook.scene_select_mem h number)
            exact ⟨ending, .selected hopen hline hnumber hselect hrest⟩

/-- The `Book.Replay` of a player who stands in a scene of the book stops exactly where
`Book.playLines` ends for the same lines. -/
theorem WellFormed.replay_iff (hbook : book.WellFormed)
    (h : player.scene ∈ book.scenes.map (·.id)) :
    book.Replay player lines ending ↔ (book.playLines player lines).ending = ending := by
  constructor
  · exact ending_of_replay
  · rintro rfl
    obtain ⟨ending, hreplay⟩ := hbook.exists_replay h lines
    rw [ending_of_replay hreplay]
    exact hreplay

/-! ### Inputs that give the same numbers -/

/-- `Book.respond` depends on the number that a line of text gives. -/
private theorem respond_congr {other : List UInt8} (hline : (decodeText? line).isSome = true)
    (hother : (decodeText? other).isSome = true) (h : typed? line = typed? other) :
    book.respond player line = book.respond player other := by
  obtain ⟨a, ha⟩ := Option.isSome_iff_exists.mp hline
  obtain ⟨b, hb⟩ := Option.isSome_iff_exists.mp hother
  rw [typed?_of_decodeText? ha, typed?_of_decodeText? hb] at h
  have hreply : book.reply player a = book.reply player b := by rw [reply, reply, h]
  rw [respond, respond, ha, hb]
  dsimp only
  rw [hreply]

/-- `Book.playLines` depends on the numbers that lines of text give. -/
theorem playLines_congr {others : List (List UInt8)}
    (hlines : ∀ line ∈ lines, (decodeText? line).isSome = true)
    (hothers : ∀ line ∈ others, (decodeText? line).isSome = true)
    (h : lines.map typed? = others.map typed?) :
    book.playLines player lines = book.playLines player others := by
  induction lines generalizing player others with
  | nil =>
    rw [List.map_nil, eq_comm, List.map_eq_nil_iff] at h
    rw [h]
  | cons line rest ih =>
    cases others with
    | nil => exact absurd h (by simp)
    | cons other more =>
      rw [List.map_cons, List.map_cons, List.cons.injEq] at h
      rw [List.forall_mem_cons] at hlines hothers
      have hrest : ∀ p : Player, book.playLines p rest = book.playLines p more :=
        fun p => ih hlines.2 hothers.2 h.2
      rw [playLines.eq_def, playLines.eq_def book player (other :: more)]
      simp only [respond_congr hlines.1 hothers.1 h.1, hrest]

/-- `Book.play` depends on the numbers that the lines of a text give. -/
theorem play_congr {input other : List UInt8} (hinput : (decodeText? input).isSome = true)
    (hother : (decodeText? other).isSome = true)
    (h : (splitLines input).map typed? = (splitLines other).map typed?) :
    book.play input = book.play other :=
  playLines_congr (fun _ => isSome_decodeText?_of_mem_splitLines hinput)
    (fun _ => isSome_decodeText?_of_mem_splitLines hother) h

end Book

end Gamebook
