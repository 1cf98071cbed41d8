import Gamebook.Proofs.Play.Origin
import Mathlib.Data.List.Induction

/-!
# What a list of effects comes to

Effects are carried out one after the other, but what a list comes to can be read off the list. As
long as no value is blank, every effect is done: the player stands where the last effect that goes
to a scene leads, and a flag is set when the last effect that names it sets it. From the first
blank value on nothing is done, so the rest of the list does not matter.

* `Effect.lastTarget?` and `Effect.lastWrite?` look for the last effect that counts.
* `Player.carryOut_append`: effects without a blank value are done before those behind them.
* `Player.carryOut_closed_form`: the two cases, for every player and every list of effects.
-/

namespace Gamebook

namespace Effect

/-- The `Effect.target?` of the last effect of a list that has one. -/
def lastTarget? (effects : List Effect) : Option String := (effects.filterMap target?).getLast?

/-- Whether an effect sets or clears a flag. -/
def writes (flag : String) (effect : Effect) : Bool :=
  effect = ⟨.setFlag, flag⟩ || effect = ⟨.clearFlag, flag⟩

/-- The last effect of a list that `Effect.writes` a flag. -/
def lastWrite? (effects : List Effect) (flag : String) : Option Effect :=
  (effects.filter (writes flag)).getLast?

variable {effects : List Effect} {effect : Effect} {flag : String}

/-- The `lastTarget?` with one more effect behind the list. -/
private theorem lastTarget?_concat :
    lastTarget? (effects ++ [effect]) = effect.target?.or (lastTarget? effects) := by
  rw [lastTarget?, List.filterMap_append, List.getLast?_append]
  cases htarget : effect.target? with
  | none => simp [htarget, lastTarget?]
  | some id => simp [htarget]

/-- The `lastWrite?` with one more effect behind the list. -/
private theorem lastWrite?_concat : lastWrite? (effects ++ [effect]) flag =
    if effect.writes flag then some effect else lastWrite? effects flag := by
  rw [lastWrite?, List.filter_append, List.getLast?_append]
  cases hwrites : effect.writes flag with
  | true => simp [hwrites]
  | false => simp [hwrites, lastWrite?]

end Effect

namespace Player

open Effect (lastTarget? lastWrite?)

variable {player : Player} {effects before rest : List Effect} {effect : Effect} {flag : String}

/-! ### One effect -/

/-- `Player.act` leads to the target of the effect, if it has one. -/
private theorem scene_act_eq : (player.act effect).scene = effect.target?.getD player.scene := by
  obtain ⟨kind, value⟩ := effect
  cases kind <;> rfl

/-- After `Player.act` a flag is set if the effect sets it, and if it does not name it and it was
set before. -/
private theorem mem_flags_act_iff : flag ∈ (player.act effect).flags ↔
    effect = ⟨.setFlag, flag⟩ ∨ effect.writes flag = false ∧ flag ∈ player.flags := by
  obtain ⟨kind, value⟩ := effect
  cases kind with
  | setFlag =>
    have hset : flag ∈ (player.act ⟨.setFlag, value⟩).flags ↔ flag = value ∨ flag ∈ player.flags :=
      FlagSet.mem_insert
    rw [hset]
    by_cases heq : flag = value
    · simp [heq]
    · simp [Effect.writes, heq, Ne.symm heq]
  | clearFlag =>
    have hclear : flag ∈ (player.act ⟨.clearFlag, value⟩).flags ↔
        flag ∈ player.flags ∧ flag ≠ value := FlagSet.mem_erase
    rw [hclear]
    by_cases heq : flag = value
    · simp [Effect.writes, heq]
    · simp [Effect.writes, heq, Ne.symm heq]
  | gotoScene => simp [Effect.writes, act, goTo]

/-! ### All effects of a list -/

/-- After all effects of a list the player stands where the `lastTarget?` leads. -/
private theorem scene_foldl_act :
    (effects.foldl act player).scene = (lastTarget? effects).getD player.scene := by
  -- the last effect decides, so the induction takes it off first
  induction effects using List.reverseRecOn with
  | nil => rfl
  | append_singleton front effect ih =>
    rw [List.foldl_append, List.foldl_cons, List.foldl_nil, scene_act_eq, ih,
      Effect.lastTarget?_concat]
    cases effect.target? <;> rfl

/-- After all effects of a list a flag is set when its `lastWrite?` sets it, and when there is none
and it was set before. -/
private theorem mem_flags_foldl_act_iff : flag ∈ (effects.foldl act player).flags ↔
    lastWrite? effects flag = some ⟨.setFlag, flag⟩ ∨
      lastWrite? effects flag = none ∧ flag ∈ player.flags := by
  induction effects using List.reverseRecOn with
  | nil => simp [lastWrite?]
  | append_singleton front effect ih =>
    rw [List.foldl_append, List.foldl_cons, List.foldl_nil, mem_flags_act_iff, ih,
      Effect.lastWrite?_concat]
    cases hwrites : effect.writes flag with
    | true => simp
    | false =>
      have hother : effect ≠ ⟨.setFlag, flag⟩ := by
        rintro rfl
        simp [Effect.writes] at hwrites
      simp [hother]

/-! ### Blank values -/

/-- Effects without a blank value are all done before the effects behind them. -/
private theorem carryOut_append (h : ∀ effect ∈ before, Text.isBlankText effect.value = false) :
    player.carryOut (before ++ rest) = (before.foldl act player).carryOut rest := by
  induction before generalizing player with
  | nil => rfl
  | cons effect others ih =>
    rw [List.forall_mem_cons] at h
    rw [List.cons_append, carryOut_of_visible h.1, ih h.2, List.foldl_cons]

/-- `Player.carryOut` does a list of effects without a blank value to its end. -/
private theorem carryOut_of_forall_visible
    (h : ∀ effect ∈ effects, Text.isBlankText effect.value = false) :
    player.carryOut effects = (effects.foldl act player, .ok ()) := by
  have hall : player.carryOut (effects ++ []) = (effects.foldl act player).carryOut [] :=
    carryOut_append h
  rwa [List.append_nil, carryOut_nil] at hall

/-- `Player.carryOut` does a list of effects up to its first blank value. -/
private theorem carryOut_append_of_blank
    (h : ∀ effect ∈ before, Text.isBlankText effect.value = false)
    (hblank : Text.isBlankText effect.value = true) :
    player.carryOut (before ++ effect :: rest) =
      ((player.carryOut before).1, .error (.invalid (.blankValue effect.kind))) := by
  rw [carryOut_append h, carryOut_of_blank hblank, carryOut_of_forall_visible h]

/-- What a list of effects comes to. If every value has a character that is not blank, all effects
are done: the player stands where the last effect that goes to a scene leads, or where the player
stood if there is none, and a flag is set exactly when the last effect that sets or clears it sets
it, or there is none and it was set before. Otherwise the list breaks off at its first blank value
with an error that names the kind of that effect; the player is as the effects before it leave the
player, whatever comes behind it. In both cases the flags are listed in ascending order. -/
theorem carryOut_closed_form (player : Player) (effects : List Effect) :
    ((∀ effect ∈ effects, ∃ c ∈ effect.value.toList, Text.isBlank c = false) →
      (player.carryOut effects).2 = .ok () ∧
      (player.carryOut effects).1.scene = (lastTarget? effects).getD player.scene ∧
      ∀ flag, flag ∈ (player.carryOut effects).1.flags ↔
        lastWrite? effects flag = some ⟨.setFlag, flag⟩ ∨
          lastWrite? effects flag = none ∧ flag ∈ player.flags) ∧
    ((¬∀ effect ∈ effects, ∃ c ∈ effect.value.toList, Text.isBlank c = false) →
      ∃ before effect rest, effects = before ++ effect :: rest ∧
        (∀ other ∈ before, ∃ c ∈ other.value.toList, Text.isBlank c = false) ∧
        (∀ c ∈ effect.value.toList, Text.isBlank c = true) ∧
        (player.carryOut effects).2 = .error (.invalid (.blankValue effect.kind)) ∧
        (player.carryOut effects).1 = (player.carryOut before).1 ∧
        ∀ others, player.carryOut (before ++ effect :: others) = player.carryOut effects) ∧
    (player.carryOut effects).1.flags.names.Pairwise (· < ·) := by
  simp only [← Text.isBlankText_eq_false_iff]
  refine ⟨fun hvisible => ?_, fun hblank => ?_, (player.carryOut effects).1.flags.ascending⟩
  · rw [carryOut_of_forall_visible hvisible]
    exact ⟨rfl, scene_foldl_act, fun flag => mem_flags_foldl_act_iff⟩
  · -- the effects in front of the first blank value are what a search for it passes over
    obtain ⟨effect, hfind⟩ : ∃ effect, effects.find? (Text.isBlankText ·.value) = some effect := by
      rw [← Option.isSome_iff_exists, List.find?_isSome]
      simpa using hblank
    obtain ⟨hfirst, before, rest, rfl, hbefore⟩ := List.find?_eq_some_iff_append.mp hfind
    have hvisible : ∀ other ∈ before, Text.isBlankText other.value = false := by
      simpa using hbefore
    refine ⟨before, effect, rest, rfl, hvisible, ?_, ?_⟩
    · simpa [Text.isBlankText] using hfirst
    · rw [carryOut_append_of_blank hvisible hfirst]
      refine ⟨rfl, rfl, fun others => ?_⟩
      exact carryOut_append_of_blank hvisible hfirst

/-- Effects that set and clear a flag and go to two scenes. -/
def crossing : List Effect :=
  [⟨.setFlag, "lit"⟩, ⟨.gotoScene, "stairs"⟩, ⟨.clearFlag, "lit"⟩, ⟨.setFlag, "dusty"⟩,
    ⟨.gotoScene, "attic"⟩]

/-- A `crossing` that breaks off at an ideographic space. -/
def brokenCrossing : List Effect := crossing.insertIdx 2 ⟨.gotoScene, "\u3000"⟩

example : (atScene "cell").carryOut crossing = (⟨"attic", .ofList ["dusty"]⟩, .ok ()) := by decide

/-- The `crossing` comes to what its last effects say, and the `brokenCrossing` to what stands
before the blank value. -/
theorem carryOut_closed_form_crossing :
    ((∀ effect ∈ crossing, ∃ c ∈ effect.value.toList, Text.isBlank c = false) ∧
      ((atScene "cell").carryOut crossing).2 = .ok () ∧
      ((atScene "cell").carryOut crossing).1.scene = (lastTarget? crossing).getD "cell" ∧
      ∀ flag, flag ∈ ((atScene "cell").carryOut crossing).1.flags ↔
        lastWrite? crossing flag = some ⟨.setFlag, flag⟩ ∨
          lastWrite? crossing flag = none ∧ flag ∈ (atScene "cell").flags) ∧
    ((¬∀ effect ∈ brokenCrossing, ∃ c ∈ effect.value.toList, Text.isBlank c = false) ∧
      ∃ before effect rest, brokenCrossing = before ++ effect :: rest ∧
        (∀ other ∈ before, ∃ c ∈ other.value.toList, Text.isBlank c = false) ∧
        (∀ c ∈ effect.value.toList, Text.isBlank c = true) ∧
        ((atScene "cell").carryOut brokenCrossing).2 =
          .error (.invalid (.blankValue effect.kind)) ∧
        ((atScene "cell").carryOut brokenCrossing).1 = ((atScene "cell").carryOut before).1 ∧
        ∀ others, (atScene "cell").carryOut (before ++ effect :: others) =
          (atScene "cell").carryOut brokenCrossing) ∧
    ((atScene "cell").carryOut brokenCrossing).1.flags.names.Pairwise (· < ·) := by
  have hvisible : ∀ effect ∈ crossing, ∃ c ∈ effect.value.toList, Text.isBlank c = false := by
    simp only [← Text.isBlankText_eq_false_iff]
    decide
  have hblank :
      ¬∀ effect ∈ brokenCrossing, ∃ c ∈ effect.value.toList, Text.isBlank c = false := by
    simp only [← Text.isBlankText_eq_false_iff]
    decide
  obtain ⟨hcross, -, -⟩ := carryOut_closed_form (atScene "cell") crossing
  obtain ⟨-, hbreak, hascending⟩ := carryOut_closed_form (atScene "cell") brokenCrossing
  exact ⟨⟨hvisible, hcross hvisible⟩, ⟨hblank, hbreak hblank⟩, hascending⟩

end Player

end Gamebook
