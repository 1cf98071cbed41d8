import Gamebook.Proofs.Play.Path

/-!
# Where flags come from

A player starts without flags, and a flag is set by nothing but an effect that names it. Effects
are carried out only when their values are not blank, only from the scene where the player stands,
and only when that scene does not end the story; and the player stands in no scene that the book
calls unreachable. So the flags of every reachable player have visible names, which the story sets
in scenes where players come to make choices. Lists of effects that break off make no exception,
because the effects before the refused one are like those of any other list.

* `Player.mem_flags_carryOut`: the flags after a list of effects.
* `Book.mem_flags_select`: the flags after a selection.
* `Book.origin_of_mem_flags`: the flags of a reachable player.
-/

namespace Gamebook

/-- `Text.isBlankText` fails exactly for a text with a character that is not blank. -/
theorem Text.isBlankText_eq_false_iff {text : String} :
    Text.isBlankText text = false ↔ ∃ c ∈ text.toList, Text.isBlank c = false := by
  rw [Text.isBlankText, List.all_eq_false]
  simp only [Bool.not_eq_true]

namespace Player

variable {player : Player} {flag : String}

/-- A flag that is set after `Player.act` was set before, or the effect sets it. -/
private theorem mem_flags_act {effect : Effect} (h : flag ∈ (player.act effect).flags) :
    flag ∈ player.flags ∨ effect = ⟨.setFlag, flag⟩ := by
  obtain ⟨kind, value⟩ := effect
  cases kind with
  | setFlag =>
    rcases FlagSet.mem_insert.mp h with rfl | hold
    · exact Or.inr rfl
    · exact Or.inl hold
  | clearFlag => exact Or.inl (FlagSet.mem_erase.mp h).1
  | gotoScene => exact Or.inl h

/-- However far `Player.carryOut` comes, a flag that is set then was set before, or its name is not
blank and one of the effects sets it. -/
private theorem mem_flags_carryOut {effects : List Effect}
    (h : flag ∈ (player.carryOut effects).1.flags) :
    flag ∈ player.flags ∨ Text.isBlankText flag = false ∧ ⟨.setFlag, flag⟩ ∈ effects := by
  induction effects generalizing player with
  | nil => exact Or.inl h
  | cons effect rest ih =>
    cases hblank : Text.isBlankText effect.value with
    | true =>
      rw [carryOut_of_blank hblank] at h
      exact Or.inl h
    | false =>
      rw [carryOut_of_visible hblank] at h
      rcases ih h with hact | ⟨hvisible, hmem⟩
      · rcases mem_flags_act hact with hold | rfl
        · exact Or.inl hold
        · exact Or.inr ⟨hblank, List.mem_cons_self⟩
      · exact Or.inr ⟨hvisible, List.mem_cons_of_mem _ hmem⟩

end Player

namespace Book

variable {book : Book} {player : Player} {flag : String}

/-- A flag that is set after a `Book.select` was set before, or its name is not blank and a choice
of the scene sets it, which then does not end the story. -/
private theorem mem_flags_select {scene : Scene} (hget : book.get player.scene = .ok scene)
    {number : UInt32} (h : flag ∈ (book.select player number).1.flags) :
    flag ∈ player.flags ∨ Text.isBlankText flag = false ∧ scene.isEnd = false ∧
      ∃ choice ∈ scene.choices, ⟨.setFlag, flag⟩ ∈ choice.effects := by
  rcases select_cases hget number with ⟨-, heq⟩ | ⟨choice, hend, hchoice, ⟨-, heq⟩ | ⟨-, heq⟩⟩
  · rw [heq] at h
    exact Or.inl h
  · rw [heq] at h
    exact Or.inl h
  · rw [heq] at h
    refine (Player.mem_flags_carryOut h).imp_right fun ⟨hvisible, heffect⟩ => ?_
    exact ⟨hvisible, hend, choice, List.mem_of_find?_eq_some hchoice, heffect⟩

/-- Some choice sets the flag in a scene that does not end the story and that is in no
`Warning.unreachable`. -/
def Sets (book : Book) (flag : String) : Prop :=
  ∃ scene ∈ book.scenes, scene.isEnd = false ∧ .unreachable scene.id ∉ book.warnings ∧
    ∃ choice ∈ scene.choices, ⟨.setFlag, flag⟩ ∈ choice.effects

/-- Every flag of a `Book.Reachable` player has a name with a character that is not blank, and some
choice `Sets` it in a scene that does not end the story and that no warning calls unreachable. -/
theorem origin_of_mem_flags {policy : DeadEndPolicy} {story : Story}
    (hbook : ofStory policy story = .ok book) (hplayer : book.Reachable player)
    (hflag : flag ∈ player.flags) :
    (∃ c ∈ flag.toList, Text.isBlank c = false) ∧ book.Sets flag := by
  have hwell := wellFormed_of_ofStory hbook
  have hinv : flag ∈ player.flags → Text.isBlankText flag = false ∧ book.Sets flag := by
    refine hplayer.induction
      (P := fun p => flag ∈ p.flags → Text.isBlankText flag = false ∧ book.Sets flag) ?_
      fun hnone => absurd hnone FlagSet.not_mem_empty
    intro p number hreach hold hnew
    obtain ⟨scene, hscene, hid, hget⟩ := hwell.exists_get_of_reachable hreach
    rcases mem_flags_select hget hnew with hbefore | ⟨hvisible, hend, hchoice⟩
    · exact hold hbefore
    · -- the flag is new, so the scene that sets it is the one to which a run has led
      refine ⟨hvisible, scene, hscene, hend, ?_, hchoice⟩
      rw [hid]
      exact scene_not_unreachable hbook hreach
  obtain ⟨hvisible, hsets⟩ := hinv hflag
  exact ⟨Text.isBlankText_eq_false_iff.mp hvisible, hsets⟩

/-- The pin of the player of `cellBook` who jumped, and whose jump broke off, comes from a scene
that the warnings do not call unreachable. -/
theorem origin_of_pin : ofStory .warn cellStory = .ok cellBook ∧
    cellBook.Reachable ⟨"well", .ofList ["pin"]⟩ ∧ "pin" ∈ FlagSet.ofList ["pin"] ∧
    (∃ c ∈ "pin".toList, Text.isBlank c = false) ∧ cellBook.Sets "pin" :=
  have hwell : cellBook.Reachable ⟨"well", .ofList ["pin"]⟩ := ⟨[2, 3], by decide⟩
  have hpin : "pin" ∈ FlagSet.ofList ["pin"] := by decide
  ⟨ofStory_cellStory, hwell, hpin, origin_of_mem_flags ofStory_cellStory hwell hpin⟩

end Book

end Gamebook
