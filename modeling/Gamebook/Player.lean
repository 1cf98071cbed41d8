import Gamebook.Error
import Gamebook.Text.Blank

/-!
# Players

A player stands in a scene and holds a set of flags. Whether a choice can be taken depends on
the flags alone. Effects change the player one after the other; an effect whose value is blank
is refused, and what the effects before it did remains done.

* `Choice.isMet_iff`: what a choice requires of the flags of a player.
* `Player.carryOut_of_blank`, `Player.carryOut_of_visible`: one effect of a list.
-/

namespace Gamebook

/-- One player in the course of a `Story`. -/
structure Player where
  /-- The id of the scene where the player stands. -/
  scene : String
  flags : FlagSet
deriving DecidableEq

/-- Whether a `Choice` can be taken, and if not, the author's reason, where there is one. -/
inductive Availability where
  | available
  | unavailable (reason : Option String)
deriving DecidableEq

namespace Availability

/-- Whether the choice with this `Availability` can be taken. -/
def isAvailable : Availability → Bool
  | .available => true
  | .unavailable _ => false

/-- The author's reason. A choice that is `Availability.available` has none. -/
def reason? : Availability → Option String
  | .available => none
  | .unavailable reason => reason

end Availability

namespace Choice

/-- Whether every flag that must be set is set and no flag that must not be set is. -/
def isMet (choice : Choice) (flags : FlagSet) : Bool :=
  choice.requiresAll.names.all flags.contains && !choice.requiresNone.names.any flags.contains

/-- The `Availability` of a choice to a player with these flags. -/
def availability (choice : Choice) (flags : FlagSet) : Availability :=
  if choice.isMet flags then .available else .unavailable choice.disabledReason

/-- `Choice.isMet` in terms of membership. -/
theorem isMet_iff {choice : Choice} {flags : FlagSet} :
    choice.isMet flags = true ↔
      (∀ name ∈ choice.requiresAll, name ∈ flags) ∧
        ∀ name ∈ choice.requiresNone, name ∉ flags := by
  simp [isMet, FlagSet.mem_iff, FlagSet.contains]

end Choice

namespace Player

/-- A `Player` who comes to a scene without any flags. -/
def atScene (id : String) : Player := ⟨id, .empty⟩

/-- Sets a flag. -/
def setFlag (player : Player) (name : String) : Player :=
  { player with flags := player.flags.insert name }

/-- Clears a flag. -/
def clearFlag (player : Player) (name : String) : Player :=
  { player with flags := player.flags.erase name }

/-- Goes to a scene. -/
def goTo (player : Player) (id : String) : Player := { player with scene := id }

/-- What an `Effect` does, whatever its value. -/
def act (player : Player) (effect : Effect) : Player :=
  match effect.kind with
  | .setFlag => player.setFlag effect.value
  | .clearFlag => player.clearFlag effect.value
  | .gotoScene => player.goTo effect.value

/-- Carries out effects in order by `Player.act` and stops at the first whose value is blank. The
result is the player as the effects before it left them, and the error if there was one. -/
def carryOut (player : Player) : List Effect → Player × Except Error Unit
  | [] => (player, .ok ())
  | effect :: rest =>
    if Text.isBlankText effect.value then
      (player, .error (.invalid (.blankValue effect.kind)))
    else carryOut (player.act effect) rest

@[simp]
theorem carryOut_nil {player : Player} : player.carryOut [] = (player, .ok ()) := rfl

/-- A blank effect stops `Player.carryOut` and leaves the player alone. -/
theorem carryOut_of_blank {player : Player} {effect : Effect} {rest : List Effect}
    (h : Text.isBlankText effect.value = true) :
    player.carryOut (effect :: rest) = (player, .error (.invalid (.blankValue effect.kind))) := by
  rw [carryOut, if_pos h]

/-- An effect that is not blank is done by `Player.act` before the rest. -/
theorem carryOut_of_visible {player : Player} {effect : Effect} {rest : List Effect}
    (h : Text.isBlankText effect.value = false) :
    player.carryOut (effect :: rest) = (player.act effect).carryOut rest := by
  rw [carryOut, if_neg (by simp [h])]

end Player

end Gamebook
