import Gamebook.Console.Outcome

/-!
# The program

Reads the command line, gets at files and input, and writes what the library says. A story is
played turn by turn, so that a page is shown before the line in answer to it is read.
-/

namespace Gamebook.Main

open Console

/-- The bytes of a file, or the `ReadFault` for which they cannot be had. -/
def readFile (path : String) : IO (Except ReadFault (List UInt8)) := do
  try
    return .ok (← IO.FS.readBinFile path).toList
  catch
    | .noFileOrDirectory .. => return .error .notFound
    | .invalidArgument _ 36 _ => return .error .nameTooLong
    | .inappropriateType _ code _ =>
      return .error (if code == 21 then .isDirectory else .notDirectory)
    | error => return .error (.other (toString error))

/-- The path that a `Command` reads, if it reads one. -/
def pathOf? : Command → Option String
  | .version _ => none
  | .play path _ _ | .check path _ | .scenes path => some path

/-- Reads up to and with the next line feed. -/
partial def readLine (input : IO.FS.Stream) (before : ByteArray) : IO ByteArray := do
  let byte ← input.read 1
  if byte.isEmpty then return before
  if byte.toList == [10] then return before ++ byte
  readLine input (before ++ byte)

/-- Writes events to the output, each by `Event.render`. -/
def writeEvents (style : Style) (events : List Event) : IO Unit := do
  let output ← IO.getStdout
  output.putStr (String.join (events.map (·.render style)))
  output.flush

/-- Plays a book from a player on. Each turn is the one of `Book.playLines`: `Book.present`, a line
that is read or `Transcript.closed`, and `Book.respond`. -/
partial def playOn (book : Book) (style : Style) (player : Player) : IO Ending := do
  let (shown, stop) := book.present player
  writeEvents style shown
  if let some ending := stop then return ending
  let line ← readLine (← IO.getStdin) .empty
  if line.isEmpty then
    writeEvents style Transcript.closed.events
    return Transcript.closed.ending
  let (events, next) := book.respond player line.toList
  writeEvents style events
  match next with
  | .error ending => return ending
  | .ok after => playOn book style after

/-- Writes an `Outcome` and gives its exit code. -/
def report (outcome : Outcome) : IO UInt32 := do
  (← IO.getStderr).putStr outcome.notes
  (← IO.getStdout).putStr outcome.out
  (← IO.getStdout).flush
  (← IO.getStderr).putStr ((outcome.failure.map Failure.message).getD "")
  return outcome.code

/-- Does what the `Command` of a command line asks for. -/
def runArgs (args : List String) : IO UInt32 := do
  match Command.ofArgs? args with
  | none => report (.failed .usage)
  | some command =>
    let contents ← match pathOf? command with
      | some path => readFile path
      | none => pure (.error .notFound)
    let read : Reader := fun _ => contents
    match command with
    | .play path fallback policy =>
      match openBook read path policy with
      | .error error => report (.failed (.story error))
      | .ok book =>
        (← IO.getStderr).putStr (warningNotes book.warnings)
        let ending ← playOn book (plainStyle fallback) book.newPlayer
        report ⟨"", "", endingFailure ending⟩
    | _ => report (command.run read [])

end Gamebook.Main

/-- Runs the program on its arguments. -/
def main (args : List String) : IO UInt32 := Gamebook.Main.runArgs args
