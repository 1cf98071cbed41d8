import Gamebook.Text.Ligature

/-!
# Width of texts

How many columns a text takes when it is shown. A text is measured from its end, since what
follows a character may change how it is shown: a selector behind it, the rest of a ligature or
the rest of a sequence of emoji. Where none of these is at work, the width is the sum over the
characters.

* `Onset.before` puts one character in front of a text, and `width` is the sum of what this adds.
-/

namespace Gamebook.Text

/-- A sign that tells how the character before it is to be shown. -/
inductive Selector where
  /-- As an emoji. -/
  | emoji
  /-- As a narrow sign. -/
  | narrow
  /-- As a wide quotation mark. -/
  | wideQuote
deriving DecidableEq

/-- The `Selector` that a character is. -/
def Selector.ofChar? (c : Char) : Option Selector :=
  if c = '\uFE0F' then some .emoji
  else if c = '\uFE0E' then some .narrow
  else if c = '\uFE01' then some .wideQuote
  else none

/-- Whether a character is a quotation mark that `Selector.wideQuote` shows wide. -/
def isCurlyQuote (c : Char) : Bool :=
  c = '\u2018' || c = '\u2019' || c = '\u201C' || c = '\u201D'

/-- What is open at the start of a text, for characters in front of it to go on with. -/
inductive Opening where
  /-- Nothing. -/
  | nothing
  /-- The end of a ligature. -/
  | ligature (known : Ligature)
  /-- The end of a sequence of emoji. -/
  | emoji (tail : EmojiTail)
deriving DecidableEq

namespace Opening

/-- The `Opening` of a character by itself. -/
def ofChar (c : Char) : Opening :=
  match Ligature.ofChar? c, EmojiTail.ofChar? c with
  | some known, _ => .ligature known
  | none, some tail => .emoji tail
  | none, none => .nothing

/-- Whether a joiner is open. -/
def isJoined (opening : Opening) : Bool := opening = .emoji .joined || opening = .emoji .keycap

/-- What stays open behind a `Selector`: ligatures other than those of vowel signs, and joiners for
an emoji. -/
def behind (opening : Opening) (selector : Selector) : Opening :=
  match opening with
  | .ligature known =>
    if known = .vowelE || known = .vowelAi then .nothing else opening
  | _ => if selector = .emoji && opening.isJoined then opening else .nothing

/-- What stays open in front of a `Selector` without an effect. -/
def past : Opening → Opening
  | .ligature known => .ligature known
  | _ => .nothing

/-- Adds a character to an `Opening`, if it fits: the change in columns and what is open then. -/
def extend? (opening : Opening) (c : Char) : Option (Int × Opening) :=
  match opening with
  | .nothing => none
  | .ligature known =>
    (known.extend? c).map fun (change, rest) => (change, (rest.map .ligature).getD .nothing)
  | .emoji tail => (tail.extend? c).map fun (change, rest) => (change, .emoji rest)

end Opening

/-- How a text starts, as far as it bears on the characters before it: an `Opening` or a
`Selector`. -/
structure Onset where
  /-- What is open. -/
  opening : Opening
  /-- The selector that is the first character. -/
  selector : Option Selector
deriving DecidableEq

namespace Onset

/-- The start of a text that bears on nothing before it. -/
def plain : Onset := ⟨.nothing, none⟩

/-- The columns of a character as the selector behind it has it shown, if this has an effect. -/
def select? (onset : Onset) (c : Char) : Option (Int × Onset) :=
  match onset.selector with
  | some .emoji =>
    if hasEmojiForm c then some (if onset.opening.isJoined then 0 else 2, ⟨.emoji .emoji, none⟩)
    else none
  | some .narrow => if hasTextForm c then some (1, plain) else none
  | some .wideQuote => if isCurlyQuote c then some (2, plain) else none
  | none => none

/-- The `Opening` if the selector at the start has no effect. -/
def unselected (onset : Onset) : Opening :=
  if onset.selector.isSome then onset.opening.past else onset.opening

/-- Puts a character in front: the change in columns and how the text starts then. -/
def before (onset : Onset) (c : Char) : Int × Onset :=
  match onset.select? c with
  | some shown => shown
  | none =>
    match Selector.ofChar? c with
    | some selector => (0, ⟨onset.unselected.behind selector, some selector⟩)
    | none =>
      match onset.unselected.extend? c with
      | some (change, opening) => (change, ⟨opening, none⟩)
      | none => (charWidth c, ⟨.ofChar c, none⟩)

end Onset

/-- The columns of a text and its `Onset`, from the end of the text to its start. -/
def measure (cs : List Char) : Int × Onset :=
  cs.foldr (fun c after => (after.1 + (after.2.before c).1, (after.2.before c).2)) (0, .plain)

/-- The columns that a text takes, as `measure` counts them. -/
def width (cs : List Char) : Nat := (measure cs).1.toNat

end Gamebook.Text
