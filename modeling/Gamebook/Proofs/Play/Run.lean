import Gamebook.Proofs.Book.Playable
import Gamebook.Turn

/-!
# Runs

A run is a list of numbers that a player of a book selects one after the other, whatever becomes
of each selection: a number that is refused leaves the player alone, and a choice that breaks off
leaves the player wherever the effects before the refused one led.

All that is known of a run follows from what one selection can do. It leads nowhere or to a target
of the scene where the player stands (`Book.scene_select`), because each effect of a list does so
(`Player.scene_carryOut`). As all targets in a book are scenes, a player never leaves the book.

* `Book.after` and `Book.answers`: the player after a run, and what was answered.
* `Book.invariant_after`: what every selection keeps, every run keeps.
* `Book.Reachable.induction`: the same for what only reachable players keep.
* `Book.stands_in_scene_of_reachable`: wherever a run leads there is a scene to show, and only an
  effect with a blank value can fail there.
-/

namespace Gamebook

/-! ### Lists of effects -/

namespace Player

/-- `Player.act` leaves a player where the player stands, or goes to a scene. -/
private theorem scene_act (player : Player) (effect : Effect) :
    (player.act effect).scene = player.scene ∨
      effect = ⟨.gotoScene, (player.act effect).scene⟩ := by
  obtain ⟨kind, value⟩ := effect
  cases kind with
  | setFlag | clearFlag => exact Or.inl rfl
  | gotoScene => exact Or.inr rfl

/-- However far `Player.carryOut` comes, the player stands where the player stood or in a scene that
one of the effects goes to. -/
private theorem scene_carryOut (player : Player) (effects : List Effect) :
    (player.carryOut effects).1.scene = player.scene ∨
      ⟨.gotoScene, (player.carryOut effects).1.scene⟩ ∈ effects := by
  induction effects generalizing player with
  | nil => exact Or.inl rfl
  | cons effect rest ih =>
    cases hblank : Text.isBlankText effect.value with
    | true =>
      rw [carryOut_of_blank hblank]
      exact Or.inl rfl
    | false =>
      rw [carryOut_of_visible hblank]
      rcases ih (player.act effect) with hstay | hgo
      · -- the rest leads nowhere, but its player stands where the first effect led
        rw [hstay]
        rcases scene_act player effect with hsame | hgo
        · exact Or.inl hsame
        · exact Or.inr (List.mem_cons.mpr (Or.inl hgo.symm))
      · exact Or.inr (List.mem_cons_of_mem _ hgo)

/-- `Player.carryOut` comes to the end of a list of effects, or up to an effect with a blank
value. -/
theorem result_carryOut (player : Player) (effects : List Effect) :
    (player.carryOut effects).2 = .ok () ∨
      ∃ effect ∈ effects, Text.isBlankText effect.value = true ∧
        (player.carryOut effects).2 = .error (.invalid (.blankValue effect.kind)) := by
  induction effects generalizing player with
  | nil => exact Or.inl rfl
  | cons effect rest ih =>
    cases hblank : Text.isBlankText effect.value with
    | true =>
      rw [carryOut_of_blank hblank]
      exact Or.inr ⟨effect, List.mem_cons_self, hblank, rfl⟩
    | false =>
      rw [carryOut_of_visible hblank]
      rcases ih (player.act effect) with hok | ⟨other, hmem, hother⟩
      · exact Or.inl hok
      · exact Or.inr ⟨other, List.mem_cons_of_mem _ hmem, hother⟩

end Player

namespace Book

variable {book : Book} {player : Player} {scene : Scene}

/-! ### One selection -/

/-- All that can become of a `Book.select`: the number is unknown, its choice is not available, or
the effects of the choice are carried out. -/
theorem select_cases (hscene : book.get player.scene = .ok scene) (number : UInt32) :
    ((scene.isEnd = true ∨ scene.choice? number = none) ∧
        book.select player number = (player, .ok (.noSuchChoice number))) ∨
      ∃ choice, scene.isEnd = false ∧ scene.choice? number = some choice ∧
        ((choice.isMet player.flags = false ∧
            book.select player number = (player, .ok (.disabled choice.disabledReason))) ∨
          (choice.isMet player.flags = true ∧
            book.select player number = ((player.carryOut choice.effects).1,
              (player.carryOut choice.effects).2.map fun _ => .applied))) := by
  cases hend : scene.isEnd with
  | true => exact Or.inl ⟨Or.inl rfl, select_of_isEnd hscene hend⟩
  | false =>
    cases hchoice : scene.choice? number with
    | none => exact Or.inl ⟨Or.inr rfl, select_of_choice?_eq_none hscene hchoice⟩
    | some choice =>
      refine Or.inr ⟨choice, rfl, rfl, ?_⟩
      cases hmet : choice.isMet player.flags with
      | false => exact Or.inl ⟨rfl, select_of_unavailable hscene hend hchoice hmet⟩
      | true => exact Or.inr ⟨rfl, select_of_available hscene hend hchoice hmet⟩

/-- A `Book.select` leads nowhere or to a target of the scene where the player stands. -/
theorem scene_select (hscene : book.get player.scene = .ok scene) (number : UInt32) :
    (book.select player number).1.scene = player.scene ∨
      (book.select player number).1.scene ∈ scene.targets := by
  rcases select_cases hscene number with ⟨-, heq⟩ | ⟨choice, -, hchoice, ⟨-, heq⟩ | ⟨-, heq⟩⟩
  · exact Or.inl (by rw [heq])
  · exact Or.inl (by rw [heq])
  · rw [heq]
    refine (player.scene_carryOut choice.effects).imp_right fun hgo => ?_
    exact Scene.mem_targets_iff.mpr ⟨choice, List.mem_of_find?_eq_some hchoice, hgo⟩

/-- In a scene of the book, `Book.select` fails only for an effect with a blank value. -/
private theorem error_of_select (hscene : book.get player.scene = .ok scene) {number : UInt32}
    {error : Error} (h : (book.select player number).2 = .error error) :
    ∃ kind, error = .invalid (.blankValue kind) := by
  rcases select_cases hscene number with ⟨-, heq⟩ | ⟨choice, -, -, ⟨-, heq⟩ | ⟨-, heq⟩⟩
  · rw [heq] at h
    cases h
  · rw [heq] at h
    cases h
  · rw [heq] at h
    rcases player.result_carryOut choice.effects with hok | ⟨effect, -, -, hblank⟩
    · rw [hok] at h
      cases h
    · rw [hblank] at h
      cases h
      exact ⟨effect.kind, rfl⟩

/-! ### Runs -/

/-- The player after a run, which makes each `Book.select` in turn. -/
def after (book : Book) (player : Player) : List UInt32 → Player
  | [] => player
  | number :: rest => book.after (book.select player number).1 rest

/-- What is answered in a run, one `Book.select` after the other. -/
def answers (book : Book) (player : Player) : List UInt32 → List (Except Error Answer)
  | [] => []
  | number :: rest =>
    (book.select player number).2 :: book.answers (book.select player number).1 rest

/-- A player whom some run leads here from `Book.newPlayer`. -/
def Reachable (book : Book) (player : Player) : Prop :=
  ∃ numbers, book.after book.newPlayer numbers = player

@[simp]
theorem after_cons {number : UInt32} {rest : List UInt32} :
    book.after player (number :: rest) = book.after (book.select player number).1 rest := rfl

@[simp]
theorem answers_cons {number : UInt32} {rest : List UInt32} :
    book.answers player (number :: rest) =
      (book.select player number).2 :: book.answers (book.select player number).1 rest := rfl

/-- What every `Book.select` keeps, every run keeps. -/
private theorem invariant_after {P : Player → Prop}
    (hstep : ∀ player number, P player → P (book.select player number).1) (h : P player)
    (numbers : List UInt32) : P (book.after player numbers) := by
  induction numbers generalizing player with
  | nil => exact h
  | cons number rest ih => exact ih (hstep player number h)

/-- What holds of a new player and what every selection keeps holds of every `Book.Reachable`
player. -/
private theorem Reachable.invariant {P : Player → Prop} (hplayer : book.Reachable player)
    (hstep : ∀ player number, P player → P (book.select player number).1)
    (hnew : P book.newPlayer) : P player := by
  obtain ⟨numbers, rfl⟩ := hplayer
  exact invariant_after hstep hnew numbers

/-- A run may go on where another run led. -/
private theorem after_append {before numbers : List UInt32} :
    book.after player (before ++ numbers) = book.after (book.after player before) numbers := by
  induction before generalizing player with
  | nil => rfl
  | cons number rest ih => exact ih

/-- Whatever a `Book.Reachable` player selects, the player is reachable. -/
theorem Reachable.select (hplayer : book.Reachable player) (number : UInt32) :
    book.Reachable (book.select player number).1 := by
  obtain ⟨numbers, rfl⟩ := hplayer
  exact ⟨numbers ++ [number], after_append⟩

/-- What holds of a new player and what every selection of a `Book.Reachable` player keeps holds of
every reachable player. -/
theorem Reachable.induction {P : Player → Prop} (hplayer : book.Reachable player)
    (hstep : ∀ player number, book.Reachable player → P player → P (book.select player number).1)
    (hnew : P book.newPlayer) : P player := by
  have hboth : book.Reachable player ∧ P player := by
    refine hplayer.invariant (P := fun p => book.Reachable p ∧ P p) ?_ ⟨⟨[], rfl⟩, hnew⟩
    intro p number ⟨hreach, hp⟩
    exact ⟨hreach.select number, hstep p number hreach hp⟩
  exact hboth.2

/-! ### Players in a book -/

namespace WellFormed

variable (hbook : book.WellFormed)

include hbook

/-- A `Book.select` in a scene of the book leads to a scene of the book. -/
theorem scene_select_mem (h : player.scene ∈ book.scenes.map (·.id)) (number : UInt32) :
    (book.select player number).1.scene ∈ book.scenes.map (·.id) := by
  obtain ⟨scene, hscene, -, hget⟩ := hbook.exists_get h
  rcases scene_select hget number with hstay | htarget
  · rw [hstay]
    exact h
  · exact (hbook.scenes scene hscene).mem_of_mem_targets htarget

/-- A `Book.Reachable` player stands in a scene of the book. -/
theorem exists_get_of_reachable (hplayer : book.Reachable player) :
    ∃ scene ∈ book.scenes, scene.id = player.scene ∧ book.get player.scene = .ok scene :=
  hbook.exists_get (hplayer.invariant (P := fun p => p.scene ∈ book.scenes.map (·.id))
    (fun _ number h => hbook.scene_select_mem h number) hbook.start_mem)

end WellFormed

/-- A `Book.Reachable` player of the book of a story stands in one of its scenes, which is shown and
tells whether the story is over, and no selection fails there but for an effect with a blank
value. -/
theorem stands_in_scene_of_reachable {policy : DeadEndPolicy} {story : Story}
    (hbook : ofStory policy story = .ok book) (hplayer : book.Reachable player) :
    ∃ scene ∈ book.scenes, scene.id = player.scene ∧
      book.page player = .ok (scene.page player) ∧ book.isFinished player = .ok scene.isEnd ∧
      ∀ number error, (book.select player number).2 = .error error →
        ∃ kind, error = .invalid (.blankValue kind) := by
  obtain ⟨scene, hmem, hid, hget⟩ :=
    (wellFormed_of_ofStory hbook).exists_get_of_reachable hplayer
  exact ⟨scene, hmem, hid, page_of_get hget, isFinished_of_get hget,
    fun _ _ => error_of_select hget⟩

/-- After a choice that broke off, the player of `cellBook` stands where the effects before the
refused one led. -/
theorem stands_in_scene_of_jump : ofStory .warn cellStory = .ok cellBook ∧
    cellBook.Reachable ⟨"well", .ofList ["pin"]⟩ ∧
    ∃ scene ∈ cellBook.scenes, scene.id = "well" ∧
      cellBook.page ⟨"well", .ofList ["pin"]⟩ = .ok (scene.page ⟨"well", .ofList ["pin"]⟩) ∧
      cellBook.isFinished ⟨"well", .ofList ["pin"]⟩ = .ok scene.isEnd ∧
      ∀ number error, (cellBook.select ⟨"well", .ofList ["pin"]⟩ number).2 = .error error →
        ∃ kind, error = .invalid (.blankValue kind) :=
  have hplayer : cellBook.Reachable ⟨"well", .ofList ["pin"]⟩ := ⟨[2, 3], by decide⟩
  ⟨ofStory_cellStory, hplayer, stands_in_scene_of_reachable ofStory_cellStory hplayer⟩

end Book

end Gamebook
