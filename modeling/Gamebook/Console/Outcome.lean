import Gamebook.Console.Command
import Gamebook.Console.SceneTable
import Gamebook.StoryFile

/-!
# Outcomes

What the program does on a command: it opens a book, tells its warnings, and plays it, counts
its scenes or lists them. Files are read by a function from paths to contents, so that nothing
here depends on where they are kept.

* `openBook` reads a book from a path.
* `Command.run` gives the outcome of a command and `run` that of a command line.
-/

namespace Gamebook.Console

/-- Why a `Command` fails. -/
inductive Failure where
  /-- The command line is wrong. -/
  | usage
  /-- An operation on a story failed. -/
  | story (error : Error)
  /-- A line of input is not the UTF-8 form of a text. -/
  | input
deriving DecidableEq

/-- What the program writes and how it fails, if it does. -/
structure Outcome where
  /-- What is written to the output. -/
  out : String
  /-- What is written to the stream of errors before the program fails or ends. -/
  notes : String
  failure : Option Failure
deriving DecidableEq

/-- How the program is called. What is said of a wrong command line, with hints at the right one, is
not modelled: this fixed line stands for every `Failure.usage`. -/
def usageMessage : String := "usage: adv play|check|scenes [OPTIONS] [STORY]\n"

/-- The wording of a `Failure`. -/
def Failure.message : Failure → String
  | .usage => usageMessage
  | .story error => "error: " ++ error.message ++ "\n"
  | .input => "error: " ++ ReadFault.notText.message ++ "\n"

namespace Outcome

/-- The exit code of the program with this `Outcome`. -/
def code (outcome : Outcome) : UInt32 :=
  match outcome.failure with
  | none => 0
  | some .usage => 2
  | some (.story _) | some .input => 1

/-- What is written to the stream of errors: the notes and the `Failure.message`. -/
def err (outcome : Outcome) : String :=
  outcome.notes ++ (outcome.failure.map Failure.message).getD ""

/-- The `Outcome` of a program that fails before it writes anything. -/
def failed (failure : Failure) : Outcome := ⟨"", "", some failure⟩

end Outcome

/-! ### Opening books -/

/-- How the program gets at the contents of a file. -/
abbrev Reader := String → Except ReadFault (List UInt8)

/-- The text of the file at a path, or `Error.unreadable`. -/
def readText (read : Reader) (path : String) : Except Error String :=
  match read path with
  | .error fault => .error (.unreadable path fault)
  | .ok bytes =>
    match decodeText? bytes with
    | some text => .ok text
    | none => .error (.unreadable path .notText)

/-- The `Book` in the file at a path. -/
def openBook (read : Reader) (path : String) (policy : DeadEndPolicy) : Except Error Book := do
  let text ← readText read path
  let story ← Story.ofText text
  liftError .invalid (Book.ofStory policy story)

/-- The lines that tell each `Warning` of a book, and their number. -/
def warningNotes (warnings : List Warning) : String :=
  String.join (warnings.map fun warning => "warning: " ++ warning.message ++ "\n") ++
    match warnings.length with
    | 0 => ""
    | 1 => "  1 warning\n"
    | n => "  " ++ toString n ++ " warnings\n"

/-- With any warnings at all `warningNotes` ends with a line that gives their number. -/
private theorem warningNotes_of_ne_nil {warnings : List Warning} (hne : warnings ≠ []) :
    warningNotes warnings =
      String.join (warnings.map fun warning => "warning: " ++ warning.message ++ "\n") ++
        ("  " ++ toString warnings.length ++
          (if warnings.length = 1 then " warning" else " warnings") ++ "\n") := by
  match warnings with
  | [] => exact absurd rfl hne
  | [_] =>
    have hone : "  " ++ toString 1 ++ " warning" ++ "\n" = "  1 warning\n" := by decide
    rw [List.length_singleton, if_pos rfl, hone]
    rfl
  | first :: second :: rest =>
    have hmany : (first :: second :: rest).length ≠ 1 := by simp
    rw [if_neg hmany, warningNotes]
    simp only [List.length_cons, String.append_assoc]
    rfl

private theorem lineFeed_notMem_message {warning : Warning} (h : '\n' ∉ warning.scene.toList) :
    '\n' ∉ warning.message.toList := by
  cases warning with
  | deadEnd scene | unreachable scene =>
    simp only [Warning.message, deadEndMessage, String.toList_append, List.mem_append, not_or]
    exact ⟨⟨by decide, h⟩, by decide⟩

private theorem lineFeed_notMem_count (n : Nat) :
    '\n' ∉ ("  " ++ toString n ++ if n = 1 then " warning" else " warnings").toList := by
  have hnumber : '\n' ∉ (toString n).toList := by
    rw [Nat.toString_eq_ofList_toDigits, String.toList_ofList]
    exact fun hmem => absurd (Nat.isDigit_of_mem_toDigits (by decide) (by decide) hmem) (by decide)
  rw [String.toList_append, String.toList_append, List.mem_append, List.mem_append, not_or, not_or]
  refine ⟨⟨by decide, hnumber⟩, ?_⟩
  split <;> decide

/-- What `warningNotes` tells of some warnings is one line for each, in their order, and then a line
with their number. Only an id with a line feed in it would take more lines. -/
theorem splitAt_warningNotes {warnings : List Warning} (hne : warnings ≠ [])
    (h : ∀ warning ∈ warnings, '\n' ∉ warning.scene.toList) :
    Text.splitAt '\n' (warningNotes warnings).toList =
      warnings.map (fun warning => ("warning: " ++ warning.message).toList) ++
        [("  " ++ toString warnings.length ++
          if warnings.length = 1 then " warning" else " warnings").toList] ++ [[]] := by
  refine (congrArg (Text.splitAt '\n') ?_).trans (Text.splitAt_flatMap ?_)
  · rw [warningNotes_of_ne_nil hne]
    simp [String.toList_join, List.flatMap_map]
  · simp only [List.forall_mem_append, List.forall_mem_map, List.forall_mem_singleton]
    refine ⟨fun warning hwarning => ?_, lineFeed_notMem_count _⟩
    rw [String.toList_append, List.mem_append, not_or]
    exact ⟨by decide, lineFeed_notMem_message (h warning hwarning)⟩

/-! ### Reports -/

/-- The lines that tell that a `Book` is right and how large it is. -/
def checkReport (path : String) (book : Book) : String :=
  let choices := book.scenes.foldl (fun n scene => n + scene.choices.length) 0
  let endings := book.scenes.countP (·.isEnd)
  "  All checks passed for '" ++ path ++ "'.\n  " ++ toString book.scenes.length ++ " scenes, "
    ++ toString choices ++ " choices, " ++ toString endings ++ " endings (start: "
    ++ book.start ++ ")\n"

/-- The `sceneTable` of a book and a line that sums it up. -/
def scenesReport (book : Book) : String :=
  (sceneTable book).render ++ "\n  " ++ toString book.scenes.length ++ " scenes, starting at "
    ++ book.start ++ "\n"

/-- The line that tells the version. -/
def versionReport (verb : Option Verb) : String :=
  "adv" ++ (verb.map fun verb => "-" ++ verb.name).getD "" ++ " 0.1.0\n"

/-! ### Running commands -/

/-- The `Style` in which the program writes a playthrough. -/
def plainStyle (fallback : String) : Style := ⟨fallback, false, false⟩

/-- The `Failure` that a playthrough ends in, if it does. -/
def endingFailure : Ending → Option Failure
  | .finished | .inputEnded => none
  | .notText => some .input
  | .failed error => some (.story error)

/-- The `Outcome` of a playthrough, with `warningNotes` before it. -/
def playOutcome (book : Book) (fallback : String) (input : List UInt8) : Outcome :=
  let transcript := book.play input
  ⟨transcript.render (plainStyle fallback), warningNotes book.warnings,
    endingFailure transcript.ending⟩

/-- The `Outcome` of something done with a book, if `openBook` gives one. -/
def withBook (read : Reader) (path : String) (policy : DeadEndPolicy) (use : Book → Outcome) :
    Outcome :=
  match openBook read path policy with
  | .error error => .failed (.story error)
  | .ok book => use book

/-- The `Outcome` of a `Command`, given the bytes of the input. -/
def Command.run (read : Reader) (input : List UInt8) : Command → Outcome
  | .version verb => ⟨versionReport verb, "", none⟩
  | .play path fallback policy =>
    withBook read path policy fun book => playOutcome book fallback input
  | .check path policy =>
    withBook read path policy fun book =>
      ⟨checkReport path book, warningNotes book.warnings, none⟩
  | .scenes path =>
    withBook read path .warn fun book =>
      ⟨scenesReport book, warningNotes book.warnings, none⟩

/-- The `Outcome` of a command line, given the bytes of the input. -/
def run (read : Reader) (input : List UInt8) (args : List String) : Outcome :=
  match Command.ofArgs? args with
  | none => .failed .usage
  | some command => command.run read input

end Gamebook.Console
