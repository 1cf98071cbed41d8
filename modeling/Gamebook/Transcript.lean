import Gamebook.Turn

/-!
# Transcripts

A playthrough from lines of input. The player is shown a page; while it is no end scene a line
is read, answered, and a page is shown again. What happens is recorded as a list of events,
which do not depend on how they are written. `Transcript.render` writes them.

Input is a list of bytes. It is read line by line, each line up to and with its line feed, and
a line has to be the UTF-8 form of a text only when it is read.

* `flatten_splitLines`: the lines of an input make up the input.
* `Event.render` gives the text of each event.
-/

namespace Gamebook

/-! ### Lines of input -/

/-- Cuts bytes after each line feed. -/
def splitLines : List UInt8 → List (List UInt8)
  | [] => []
  | byte :: rest =>
    if byte = 10 then [byte] :: splitLines rest
    else
      match splitLines rest with
      | [] => [[byte]]
      | line :: lines => (byte :: line) :: lines

/-- The lines that `splitLines` cuts an input into make up the input. -/
theorem flatten_splitLines {bytes : List UInt8} : (splitLines bytes).flatten = bytes := by
  induction bytes with
  | nil => rfl
  | cons byte rest ih =>
    rw [splitLines]
    split
    · simp [ih]
    · split
      · next h =>
        rw [h] at ih
        simpa using ih
      · next line lines h =>
        rw [h] at ih
        simpa using ih

/-- The text whose UTF-8 form the bytes are. -/
def decodeText? (bytes : List UInt8) : Option String := String.fromUTF8? ⟨bytes.toArray⟩

/-! ### Events -/

/-- What a typed line leads to, where no operation fails. -/
inductive Reply where
  /-- The line is no number. -/
  | notANumber
  /-- The line is a number and was answered. -/
  | answered (answer : Answer)
  /-- An effect of the selected choice was refused. -/
  | broken
deriving DecidableEq

/-- One event of a `Transcript`. -/
inductive Event where
  /-- A page was shown. -/
  | shown (page : Page)
  /-- A line was read and answered. -/
  | replied (reply : Reply)
  /-- The input was found to be at its end. -/
  | closed
deriving DecidableEq

/-- How a `Transcript` stopped. -/
inductive Ending where
  /-- An end scene was shown. -/
  | finished
  /-- The input came to its end before the story. -/
  | inputEnded
  /-- A line of input is not the UTF-8 form of a text. -/
  | notText
  /-- An operation failed. -/
  | failed (error : Error)
deriving DecidableEq

/-- The record of a playthrough: its events and its `Ending`. -/
structure Transcript where
  events : List Event
  ending : Ending
deriving DecidableEq

/-- Puts events before those of a `Transcript`. -/
def Transcript.after (events : List Event) (transcript : Transcript) : Transcript :=
  { transcript with events := events ++ transcript.events }

/-- What happens where a line is to be read and the input is at its end: `Event.closed`. -/
def Transcript.closed : Transcript := ⟨[.closed], .inputEnded⟩

/-! ### Turns -/

/-- The `Reply` to a line typed by a player, who selects the `Selection.ofText?` of the line. -/
def Book.reply (book : Book) (player : Player) (line : String) :
    Player × Except Error Reply :=
  match Selection.ofText? line with
  | none => (player, .ok .notANumber)
  | some number =>
    let (after, result) := book.select player number
    (after, result.map .answered)

/-- The first half of a turn: the player is shown a `Page`. The playthrough stops here if there is
none or it is an end. -/
def Book.present (book : Book) (player : Player) : List Event × Option Ending :=
  match book.page player with
  | .error error => ([], some (.failed error))
  | .ok page => ([.shown page], if page.isEnd then some .finished else none)

/-- The second half of a turn: a line of input is read and given a `Reply`. The playthrough goes on
with a player or stops here. -/
def Book.respond (book : Book) (player : Player) (line : List UInt8) :
    List Event × Except Ending Player :=
  match decodeText? line with
  | none => ([], .error .notText)
  | some text =>
    match book.reply player text with
    | (_, .error error) => ([.replied .broken], .error (.failed error))
    | (after, .ok reply) => ([.replied reply], .ok after)

/-- The playthrough of a player from lines of input. Each turn is `Book.present`, and `Book.respond`
if there is a line left. -/
def Book.playLines (book : Book) (player : Player) (lines : List (List UInt8)) : Transcript :=
  match book.present player with
  | (shown, some ending) => ⟨shown, ending⟩
  | (shown, none) =>
    match lines with
    | [] => Transcript.closed.after shown
    | line :: rest =>
      match book.respond player line with
      | (events, .error ending) => ⟨shown ++ events, ending⟩
      | (events, .ok after) => (book.playLines after rest).after (shown ++ events)

/-- The playthrough of a `Book.newPlayer` from the bytes of an input. -/
def Book.play (book : Book) (input : List UInt8) : Transcript :=
  book.playLines book.newPlayer (splitLines input)

/-! ### Writing a transcript -/

/-- How a `Transcript` is written. -/
structure Style where
  /-- The words for an unavailable choice whose author gave no reason. -/
  fallback : String
  /-- Whether unavailable choices are to be dimmed. -/
  dim : Bool
  /-- Whether the output shows colors at all. -/
  color : Bool
deriving DecidableEq

/-- The words for an unavailable choice unless the player asks for others. -/
def defaultFallback : String := "That option is not available."

namespace Style

/-- The sequence that turns dimming on. -/
def dimOn : List Char := ['\x1b', '[', '2', 'm']

/-- The sequence that turns all attributes off. -/
def allOff : List Char := ['\x1b', '[', '0', 'm']

/-- Turns dimming on again wherever a text turns all attributes off. -/
def dimAgain : List Char → List Char
  | '\x1b' :: '[' :: '0' :: 'm' :: rest => allOff ++ dimOn ++ dimAgain rest
  | c :: rest => c :: dimAgain rest
  | [] => []

/-- A text between `dimOn` and `allOff`, which dims it to its end. -/
def dimmed (text : String) : String :=
  .ofList (dimOn ++ dimAgain text.toList ++ allOff)

/-- The words for an unavailable choice: those `given` by the author, or else the `fallback`. -/
def reason (style : Style) (given : Option String) : String := given.getD style.fallback

end Style

/-- The line that lists an `Entry`. -/
def Entry.render (style : Style) (entry : Entry) : String :=
  let line := toString entry.number.toNat ++ ". " ++ entry.text
  match entry.availability with
  | .available => line ++ "\n"
  | .unavailable reason =>
    let full := line ++ " (" ++ style.reason reason ++ ")"
    (if style.dim && style.color then Style.dimmed full else full) ++ "\n"

/-- The lines that list the entries of a `Page`, each by `Entry.render`. -/
def Page.listing (style : Style) (page : Page) : String :=
  String.join (page.entries.map (·.render style))

/-- The text of a `Page`: the end of the game, or the `Page.listing` and a prompt. -/
def Page.render (style : Style) (page : Page) : String :=
  page.text ++ "\n\n" ++
    if page.isEnd then "Game ended.\n" else page.listing style ++ "\n> "

/-- The words of a `Reply`, where there are any. -/
def Reply.words (style : Style) : Reply → String
  | .notANumber => "Invalid input. Enter a number.\n\n"
  | .answered .applied => "\n"
  | .answered (.noSuchChoice _) => "No such option.\n\n"
  | .answered (.disabled reason) => style.reason reason ++ "\n\n"
  | .broken => ""

/-- The text of an `Event`. -/
def Event.render (style : Style) : Event → String
  | .shown page => page.render style
  | .replied reply => "\n" ++ reply.words style
  | .closed => "\n"

/-- The text of a `Transcript`: that of its events, one after the other. -/
def Transcript.render (style : Style) (transcript : Transcript) : String :=
  String.join (transcript.events.map (·.render style))

@[simp]
theorem Transcript.events_after {events : List Event} {transcript : Transcript} :
    (transcript.after events).events = events ++ transcript.events := rfl

@[simp]
theorem Transcript.ending_after {events : List Event} {transcript : Transcript} :
    (transcript.after events).ending = transcript.ending := rfl

end Gamebook
