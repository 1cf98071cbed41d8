import Gamebook.Proofs.Play.Run

/-!
# What is listed and what is answered

A page lists the choices of a scene by number, and a selection looks for its choice in the scene
itself. In a book no two choices of a scene have the same number, so the entry with a number and
the choice that a selection of the number finds are the same choice: what the page says of a
number is what comes of selecting it.

* `Page.mem_entries_iff` and `Scene.Playable.nodup_entries`: entries are choices, one a number.
* `Book.Foretells` is the agreement of a page with one selection, and `Book.foretells_of_get`
  says that it holds wherever the player can go on.
* `Book.page_foretells_selections`: the agreement in every reachable state, and the silence of
  end scenes.
* `Book.end_page_offers_nothing_iff`: the page of an end scene does not know of this silence.
-/

namespace Gamebook

variable {scene : Scene} {player : Player}

/-! ### Entries of a page -/

/-- The entries of a `Scene.page` are the choices of the scene. -/
theorem Page.mem_entries_iff {entry : Entry} :
    entry ∈ (scene.page player).entries ↔
      ∃ choice ∈ scene.choices, choice.entry player.flags = entry := by
  rw [Page.entries_perm.mem_iff, List.mem_map]

/-- No number is listed twice on the `Scene.page` of a playable scene. -/
theorem Scene.Playable.nodup_entries {ids : List String} (h : scene.Playable ids) :
    ((scene.page player).entries.map (·.number)).Nodup := by
  refine (Page.entries_perm.map (·.number)).nodup_iff.mpr ?_
  rw [List.map_map]
  exact h.nodup_numbers

/-- In a playable scene `Scene.choice?` finds the one choice that has the number. -/
theorem Scene.Playable.choice?_eq_some_iff {ids : List String} (h : scene.Playable ids)
    {number : UInt32} {choice : Choice} :
    scene.choice? number = some choice ↔ choice ∈ scene.choices ∧ choice.number = number :=
  find?_eq_some_iff_of_nodup h.nodup_numbers

/-- A `Choice.entry` is marked as available exactly when the requirements hold. -/
theorem Choice.isAvailable_entry {choice : Choice} {flags : FlagSet} :
    (choice.entry flags).availability.isAvailable = choice.isMet flags := by
  rw [entry, availability]
  cases choice.isMet flags <;> rfl

/-- A `Scene.page` marks no entry as available exactly when each choice requires a flag that is not
set or forbids one that is. -/
private theorem Page.forall_unavailable_iff :
    (∀ entry ∈ (scene.page player).entries, entry.availability.isAvailable = false) ↔
      ∀ choice ∈ scene.choices, (∃ name ∈ choice.requiresAll, name ∉ player.flags) ∨
        ∃ name ∈ choice.requiresNone, name ∈ player.flags := by
  have hchoice : ∀ choice : Choice, choice.isMet player.flags = false ↔
      (∃ name ∈ choice.requiresAll, name ∉ player.flags) ∨
        ∃ name ∈ choice.requiresNone, name ∈ player.flags := by
    intro choice
    rw [← Bool.not_eq_true, Choice.isMet_iff, not_and_or]
    simp only [not_forall, not_not, exists_prop]
  constructor
  · intro h choice hmem
    have hclosed := h _ (mem_entries_iff.mpr ⟨choice, hmem, rfl⟩)
    rw [Choice.isAvailable_entry] at hclosed
    exact (hchoice choice).mp hclosed
  · intro h entry hentry
    obtain ⟨choice, hmem, rfl⟩ := mem_entries_iff.mp hentry
    rw [Choice.isAvailable_entry]
    exact (hchoice choice).mpr (h choice hmem)

/-- A `Choice.entry` gives the author's reason exactly when the requirements fail. -/
theorem Choice.reason?_entry {choice : Choice} {flags : FlagSet} :
    (choice.entry flags).availability.reason? =
      if choice.isMet flags then none else choice.disabledReason := by
  rw [entry, availability]
  cases choice.isMet flags <;> rfl

namespace Book

variable {book : Book}

/-! ### The agreement of a page with a selection -/

/-- What a `Page` says of a number is what comes of selecting it. -/
structure Foretells (book : Book) (player : Player) (page : Page) (number : UInt32) : Prop where
  /-- A number that is not listed is unknown. -/
  unlisted : (∀ entry ∈ page.entries, entry.number ≠ number) →
    book.select player number = (player, .ok (.noSuchChoice number))
  /-- An entry that is not available is refused for the reason it gives. -/
  unavailable : ∀ entry ∈ page.entries, entry.number = number →
    entry.availability.isAvailable = false →
      book.select player number = (player, .ok (.disabled entry.availability.reason?))
  /-- An entry that is available gives no reason, and its choice is carried out, to the end or up
  to an effect with a blank value. -/
  available : ∀ entry ∈ page.entries, entry.number = number →
    entry.availability.isAvailable = true →
      entry.availability.reason? = none ∧
        ∃ scene choice, book.get player.scene = .ok scene ∧ choice ∈ scene.choices ∧
          choice.entry player.flags = entry ∧
          (book.select player number).1 = (player.carryOut choice.effects).1 ∧
          ((player.carryOut choice.effects).2 = .ok () ∧
              (book.select player number).2 = .ok .applied ∨
            ∃ kind, (player.carryOut choice.effects).2 = .error (.invalid (.blankValue kind)) ∧
              (book.select player number).2 = .error (.invalid (.blankValue kind)))

/-- In a playable scene that does not end the story the page `Foretells` every selection. -/
theorem foretells_of_get {ids : List String} (hget : book.get player.scene = .ok scene)
    (hplay : scene.Playable ids) (hend : scene.isEnd = false) (number : UInt32) :
    book.Foretells player (scene.page player) number where
  unlisted hnone := by
    refine select_of_choice?_eq_none hget (find?_eq_none_iff_forall_ne.mpr fun choice hmem => ?_)
    exact hnone (choice.entry player.flags) (Page.mem_entries_iff.mpr ⟨choice, hmem, rfl⟩)
  unavailable entry hentry hnumber hclosed := by
    obtain ⟨choice, hmem, rfl⟩ := Page.mem_entries_iff.mp hentry
    have hchoice := hplay.choice?_eq_some_iff.mpr ⟨hmem, hnumber⟩
    rw [Choice.isAvailable_entry] at hclosed
    rw [select_of_unavailable hget hend hchoice hclosed, Choice.reason?_entry, hclosed]
    rfl
  available entry hentry hnumber hopen := by
    obtain ⟨choice, hmem, rfl⟩ := Page.mem_entries_iff.mp hentry
    have hchoice := hplay.choice?_eq_some_iff.mpr ⟨hmem, hnumber⟩
    rw [Choice.isAvailable_entry] at hopen
    refine ⟨by rw [Choice.reason?_entry, if_pos hopen], scene, choice, hget, hmem, rfl, ?_⟩
    rw [select_of_available hget hend hchoice hopen]
    refine ⟨rfl, ?_⟩
    rcases player.result_carryOut choice.effects with hok | ⟨effect, -, -, hblank⟩
    · rw [hok]
      exact Or.inl ⟨rfl, rfl⟩
    · rw [hblank]
      exact Or.inr ⟨effect.kind, rfl, rfl⟩

/-! ### End scenes -/

/-- In an end scene every number is unknown, and no run leads away. -/
private theorem after_eq_self_of_isEnd (hget : book.get player.scene = .ok scene)
    (hend : scene.isEnd = true) (numbers : List UInt32) :
    book.after player numbers = player ∧
      book.answers player numbers = numbers.map fun number => .ok (.noSuchChoice number) := by
  induction numbers with
  | nil => exact ⟨rfl, rfl⟩
  | cons number rest ih =>
    rw [after_cons, answers_cons, select_of_isEnd hget hend, List.map_cons]
    exact ⟨ih.1, congrArg _ ih.2⟩

/-- In every reachable state of a book that is not at an end, the page lists no number twice and
`Foretells` every selection. At an end, every run is answered with unknown numbers and changes
nothing. -/
theorem page_foretells_selections {policy : DeadEndPolicy} {story : Story}
    (hbook : ofStory policy story = .ok book) (hplayer : book.Reachable player) :
    (book.isFinished player = .ok false →
      ∃ page, book.page player = .ok page ∧ (page.entries.map (·.number)).Nodup ∧
        ∀ number, book.Foretells player page number) ∧
    (book.isFinished player = .ok true → ∀ numbers, book.after player numbers = player ∧
      book.answers player numbers = numbers.map fun number => .ok (.noSuchChoice number)) := by
  have hwell := wellFormed_of_ofStory hbook
  obtain ⟨scene, hmem, -, hget⟩ := hwell.exists_get_of_reachable hplayer
  have hplay := hwell.scenes scene hmem
  rw [isFinished_of_get hget]
  constructor
  · intro hend
    exact ⟨scene.page player, page_of_get hget, hplay.nodup_entries,
      foretells_of_get hget hplay (Except.ok.inj hend)⟩
  · intro hend
    exact after_eq_self_of_isEnd hget (Except.ok.inj hend)

/-- The page of `cellBook` foretells every selection once the pin is found, and nothing happens
any more when the player is out. -/
theorem page_foretells_selections_of_pin : ofStory .warn cellStory = .ok cellBook ∧
    (cellBook.Reachable ⟨"cell", .ofList ["pin"]⟩ ∧
      cellBook.isFinished ⟨"cell", .ofList ["pin"]⟩ = .ok false ∧
      ∃ page, cellBook.page ⟨"cell", .ofList ["pin"]⟩ = .ok page ∧
        (page.entries.map (·.number)).Nodup ∧
        ∀ number, cellBook.Foretells ⟨"cell", .ofList ["pin"]⟩ page number) ∧
    (cellBook.Reachable ⟨"yard", .ofList ["pin"]⟩ ∧
      cellBook.isFinished ⟨"yard", .ofList ["pin"]⟩ = .ok true ∧
      ∀ numbers, cellBook.after ⟨"yard", .ofList ["pin"]⟩ numbers = ⟨"yard", .ofList ["pin"]⟩ ∧
        cellBook.answers ⟨"yard", .ofList ["pin"]⟩ numbers =
          numbers.map fun number => .ok (.noSuchChoice number)) := by
  have hcell : cellBook.Reachable ⟨"cell", .ofList ["pin"]⟩ := ⟨[2], by decide⟩
  have hyard : cellBook.Reachable ⟨"yard", .ofList ["pin"]⟩ := ⟨[2, 1], by decide⟩
  have hopen : cellBook.isFinished ⟨"cell", .ofList ["pin"]⟩ = .ok false := by decide
  have hover : cellBook.isFinished ⟨"yard", .ofList ["pin"]⟩ = .ok true := by decide
  exact ⟨ofStory_cellStory,
    ⟨hcell, hopen, (page_foretells_selections ofStory_cellStory hcell).1 hopen⟩,
    ⟨hyard, hover, (page_foretells_selections ofStory_cellStory hyard).2 hover⟩⟩

/-! ### Pages of end scenes -/

/-- In every reachable state at an end every number is unknown. The page lists the choices of the
scene all the same, and it marks none as available exactly when each of them requires a flag that
is not set or forbids one that is. -/
theorem end_page_offers_nothing_iff {policy : DeadEndPolicy} {story : Story}
    (hbook : ofStory policy story = .ok book) (hplayer : book.Reachable player)
    (hover : book.isFinished player = .ok true) :
    ∃ scene page, book.get player.scene = .ok scene ∧ book.page player = .ok page ∧
      (∀ number, book.select player number = (player, .ok (.noSuchChoice number))) ∧
      ((∀ entry ∈ page.entries, entry.availability.isAvailable = false) ↔
        ∀ choice ∈ scene.choices, (∃ name ∈ choice.requiresAll, name ∉ player.flags) ∨
          ∃ name ∈ choice.requiresNone, name ∈ player.flags) := by
  obtain ⟨scene, -, -, hget⟩ := (wellFormed_of_ofStory hbook).exists_get_of_reachable hplayer
  rw [isFinished_of_get hget] at hover
  have hend : scene.isEnd = true := Except.ok.inj hover
  exact ⟨scene, scene.page player, hget, page_of_get hget, fun _ => select_of_isEnd hget hend,
    Page.forall_unavailable_iff⟩

/-- The yard of `cellBook` ends the story, but its page marks a choice as available, and the number
of this choice is unknown when it is selected. -/
theorem end_page_offers_choice : ofStory .warn cellStory = .ok cellBook ∧
    cellBook.Reachable ⟨"yard", .ofList ["pin"]⟩ ∧
    cellBook.isFinished ⟨"yard", .ofList ["pin"]⟩ = .ok true ∧
    cellBook.page ⟨"yard", .ofList ["pin"]⟩ =
      .ok ⟨"yard", "You are out.", true, [⟨1, "Go back", .available⟩]⟩ ∧
    cellBook.select ⟨"yard", .ofList ["pin"]⟩ 1 =
      (⟨"yard", .ofList ["pin"]⟩, .ok (.noSuchChoice 1)) := by
  refine ⟨ofStory_cellStory, ⟨[2, 1], by decide⟩, by decide, ?_, by decide⟩
  have hget : cellBook.get "yard" = .ok ⟨"yard", "You are out.", true,
      [⟨1, "Go back", .empty, .empty, none, [⟨.gotoScene, "cell"⟩]⟩]⟩ := by decide
  rw [page_of_get hget, Scene.page, List.map_singleton, List.mergeSort_singleton]
  decide

/-- In the yard of `cellBook`, where the one choice asks for no flags, the page offers something. -/
theorem end_page_offers_nothing_iff_of_yard : ofStory .warn cellStory = .ok cellBook ∧
    cellBook.Reachable ⟨"yard", .ofList ["pin"]⟩ ∧
    cellBook.isFinished ⟨"yard", .ofList ["pin"]⟩ = .ok true ∧
    ∃ scene page, cellBook.get "yard" = .ok scene ∧
      cellBook.page ⟨"yard", .ofList ["pin"]⟩ = .ok page ∧
      (∀ number, cellBook.select ⟨"yard", .ofList ["pin"]⟩ number =
        (⟨"yard", .ofList ["pin"]⟩, .ok (.noSuchChoice number))) ∧
      ((∀ entry ∈ page.entries, entry.availability.isAvailable = false) ↔
        ∀ choice ∈ scene.choices,
          (∃ name ∈ choice.requiresAll, name ∉ FlagSet.ofList ["pin"]) ∨
            ∃ name ∈ choice.requiresNone, name ∈ FlagSet.ofList ["pin"]) := by
  have hplayer : cellBook.Reachable ⟨"yard", .ofList ["pin"]⟩ := ⟨[2, 1], by decide⟩
  have hover : cellBook.isFinished ⟨"yard", .ofList ["pin"]⟩ = .ok true := by decide
  exact ⟨ofStory_cellStory, hplayer, hover,
    end_page_offers_nothing_iff ofStory_cellStory hplayer hover⟩

end Book

end Gamebook
