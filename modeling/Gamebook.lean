import Gamebook.Text.Blank
import Gamebook.FlagSet
import Gamebook.Page
import Gamebook.Book.Trail
import Gamebook.Turn
import Gamebook.Transcript
import Gamebook.Text.NameChars
import Gamebook.Json.Scan
import Gamebook.Json.Tree
import Gamebook.Binary64.Shortest
import Gamebook.Text.Lowercase
import Gamebook.Text.Quoted
import Gamebook.Text.Width
import Gamebook.Json.Literal
import Gamebook.Json.Key
import Gamebook.StoryFile
import Gamebook.Console.Outcome
import Gamebook.Console.Shelf
import Gamebook.Text.Split
import Gamebook.Main
import Gamebook.Selection
import Gamebook.Page.Value
import Gamebook.Proofs.Book.Warnings
import Gamebook.Proofs.Play.Listing
import Gamebook.Proofs.Play.Path
import Gamebook.Proofs.Play.Ending
import Gamebook.Proofs.Manuscript.Alike
import Gamebook.Proofs.Manuscript.Written
import Gamebook.Proofs.Book.Policy
import Gamebook.Proofs.Book.Order
import Gamebook.Proofs.Play.Order
import Gamebook.Proofs.Play.Mentioned
import Gamebook.Proofs.Play.Origin
import Gamebook.Proofs.Play.Failure
import Gamebook.Proofs.Play.LastWrite
import Gamebook.Proofs.Book.Earliest
import Gamebook.Proofs.Console.Agreement
import Gamebook.Proofs.Book.Index
import Gamebook.Proofs.Play.Page
import Gamebook.Proofs.Manuscript.Loading
import Gamebook.Proofs.Json.Folding
import Gamebook.Proofs.Manuscript.FieldNames
import Gamebook.Proofs.Play.Number
import Gamebook.Proofs.Play.Reply
import Gamebook.Proofs.Play.Dimming
import Gamebook.Proofs.Book.Walk
import Gamebook.Proofs.Console.SceneTable
import Gamebook.Proofs.Manuscript.Page
import Gamebook.Proofs.Manuscript.Ascii
