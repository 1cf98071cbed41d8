import Gamebook.Proofs.Play.Run

/-!
# Flags that are mentioned

A flag is mentioned when some choice requires it to be set or not to be set. Only mentioned flags
matter. Two players in the same scene who hold the same mentioned flags are shown the same page and
get the same answer, and the effects of a choice do the same to both, also when they break off
midway: an effect that sets or clears a flag does so for both, and whether its value is blank has
nothing to do with the player. So the two stay alike through every run, however much their other
flags differ.

* `Player.AgreeOn`: two players in the same scene who hold the same flags of a list.
* `Player.AgreeOn.carryOut`: effects keep the agreement on any list of flags.
* `Scene.page_of_agreeOn` and `Book.selectIn_of_agreeOn`: agreement on what a scene mentions.
* `Book.run_of_agreeOn_mentioned`: agreement on what a book mentions, through every run.
-/

namespace Gamebook

/-! ### Mentioned flags -/

/-- The flags that a choice requires to be set or not to be set. -/
def Choice.mentioned (choice : Choice) : List String :=
  choice.requiresAll.names ++ choice.requiresNone.names

/-- The flags that the choices of a scene mention, as `Choice.mentioned` gives them. -/
def Scene.mentioned (scene : Scene) : List String := scene.choices.flatMap Choice.mentioned

/-- The flags that the scenes of a book mention, as `Scene.mentioned` gives them. -/
def Book.mentioned (book : Book) : List String := book.scenes.flatMap Scene.mentioned

/-- A flag is in `Book.mentioned` exactly when some choice of some scene requires it to be set or
not to be set. -/
theorem Book.mem_mentioned_iff {book : Book} {flag : String} :
    flag ∈ book.mentioned ↔ ∃ scene ∈ book.scenes, ∃ choice ∈ scene.choices,
      flag ∈ choice.requiresAll ∨ flag ∈ choice.requiresNone := by
  simp only [mentioned, Scene.mentioned, Choice.mentioned, List.mem_flatMap, List.mem_append,
    FlagSet.mem_iff]

/-! ### Players who agree -/

namespace Player

variable {flags : List String} {a b : Player}

/-- Two players in the same scene who hold the same of some flags. -/
structure AgreeOn (flags : List String) (a b : Player) : Prop where
  scene_eq : a.scene = b.scene
  mem_iff : ∀ flag ∈ flags, flag ∈ a.flags ↔ flag ∈ b.flags

namespace AgreeOn

/-- Players who `AgreeOn` some flags agree on fewer. -/
theorem mono {others : List String} (h : AgreeOn flags a b) (hsub : others ⊆ flags) :
    AgreeOn others a b :=
  ⟨h.scene_eq, fun flag hflag => h.mem_iff flag (hsub hflag)⟩

/-- `Player.act` does the same to players who agree. -/
theorem act (h : AgreeOn flags a b) (effect : Effect) :
    AgreeOn flags (a.act effect) (b.act effect) := by
  obtain ⟨kind, value⟩ := effect
  cases kind with
  | setFlag =>
    refine ⟨h.scene_eq, fun flag hflag => ?_⟩
    simp only [Player.act, setFlag, FlagSet.mem_insert, h.mem_iff flag hflag]
  | clearFlag =>
    refine ⟨h.scene_eq, fun flag hflag => ?_⟩
    simp only [Player.act, clearFlag, FlagSet.mem_erase, h.mem_iff flag hflag]
  | gotoScene => exact ⟨rfl, h.mem_iff⟩

/-- `Player.carryOut` does the same to players who agree, and breaks off for both at the same effect
or for neither. -/
theorem carryOut (h : AgreeOn flags a b) (effects : List Effect) :
    (a.carryOut effects).2 = (b.carryOut effects).2 ∧
      AgreeOn flags (a.carryOut effects).1 (b.carryOut effects).1 := by
  induction effects generalizing a b with
  | nil => exact ⟨rfl, h⟩
  | cons effect rest ih =>
    -- whether an effect is refused depends on its value and not on the player
    cases hblank : Text.isBlankText effect.value with
    | true =>
      rw [carryOut_of_blank hblank, carryOut_of_blank hblank]
      exact ⟨rfl, h⟩
    | false =>
      rw [carryOut_of_visible hblank, carryOut_of_visible hblank]
      exact ih (h.act effect)

end AgreeOn

end Player

open Player (AgreeOn)

variable {a b : Player}

/-! ### Choices and scenes -/

/-- `Choice.isMet` is the same for players who agree on what the choice mentions. -/
private theorem Choice.isMet_of_agreeOn {choice : Choice} (h : AgreeOn choice.mentioned a b) :
    choice.isMet a.flags = choice.isMet b.flags := by
  rw [Bool.eq_iff_iff, isMet_iff, isMet_iff]
  refine and_congr (forall₂_congr fun flag hflag => ?_) (forall₂_congr fun flag hflag => ?_)
  · exact h.mem_iff flag (List.mem_append_left _ hflag)
  · exact not_congr (h.mem_iff flag (List.mem_append_right _ hflag))

/-- Players who agree on what a scene mentions agree on what its choices mention. -/
private theorem Scene.agreeOn_choice {scene : Scene} (h : AgreeOn scene.mentioned a b)
    {choice : Choice} (hchoice : choice ∈ scene.choices) : AgreeOn choice.mentioned a b :=
  h.mono fun _ hflag => List.mem_flatMap.mpr ⟨choice, hchoice, hflag⟩

/-- `Scene.page` is the same for players who agree on what the scene mentions. -/
private theorem Scene.page_of_agreeOn {scene : Scene} (h : AgreeOn scene.mentioned a b) :
    scene.page a = scene.page b := by
  have hentries : scene.choices.map (·.entry a.flags) = scene.choices.map (·.entry b.flags) := by
    refine List.map_congr_left fun choice hchoice => ?_
    rw [Choice.entry, Choice.entry, Choice.availability, Choice.availability,
      Choice.isMet_of_agreeOn (agreeOn_choice h hchoice)]
  rw [page, page, hentries]

namespace Book

/-- Players who agree on what a scene mentions get the same answer from `Book.selectIn`, and agree
afterwards on whatever they agreed on before. -/
private theorem selectIn_of_agreeOn {scene : Scene} {flags : List String} (h : AgreeOn flags a b)
    (hsub : scene.mentioned ⊆ flags) (number : UInt32) :
    (selectIn scene a number).2 = (selectIn scene b number).2 ∧
      AgreeOn flags (selectIn scene a number).1 (selectIn scene b number).1 := by
  rw [selectIn, selectIn]
  cases scene.isEnd with
  | true => exact ⟨rfl, h⟩
  | false =>
    cases hchoice : scene.choice? number with
    | none => exact ⟨rfl, h⟩
    | some choice =>
      have hmet : choice.isMet a.flags = choice.isMet b.flags :=
        Choice.isMet_of_agreeOn
          (Scene.agreeOn_choice (h.mono hsub) (List.mem_of_find?_eq_some hchoice))
      simp only [Choice.availability, hmet]
      cases choice.isMet b.flags with
      | false => exact ⟨rfl, h⟩
      | true =>
        obtain ⟨hresult, hafter⟩ := h.carryOut choice.effects
        exact ⟨congrArg (Except.map _) hresult, hafter⟩

variable {book : Book}

/-- What `Book.get` finds is a scene of the book. -/
private theorem mem_scenes_of_get {id : String} {scene : Scene} (h : book.get id = .ok scene) :
    scene ∈ book.scenes := by
  rw [get] at h
  split at h
  · next found hfound =>
    cases h
    obtain ⟨position, -, hposition⟩ := Option.bind_eq_some_iff.mp hfound
    exact List.mem_of_getElem? hposition
  · cases h

private theorem mentioned_subset {scene : Scene} (hscene : scene ∈ book.scenes) :
    scene.mentioned ⊆ book.mentioned :=
  fun _ hflag => List.mem_flatMap.mpr ⟨scene, hscene, hflag⟩

/-- `Book.page` is the same for players who agree on what the book mentions. -/
private theorem page_of_agreeOn (h : AgreeOn book.mentioned a b) : book.page a = book.page b := by
  rw [page, page, ← h.scene_eq]
  cases hget : book.get a.scene with
  | error error => rfl
  | ok scene =>
    have hsub := mentioned_subset (mem_scenes_of_get hget)
    exact congrArg Except.ok (Scene.page_of_agreeOn (h.mono hsub))

/-- Players who agree on what a book mentions get the same answer from `Book.select`, and agree
afterwards. -/
theorem select_of_agreeOn (h : AgreeOn book.mentioned a b) (number : UInt32) :
    (book.select a number).2 = (book.select b number).2 ∧
      AgreeOn book.mentioned (book.select a number).1 (book.select b number).1 := by
  rw [select, select, ← h.scene_eq]
  cases hget : book.get a.scene with
  | error error => exact ⟨rfl, h⟩
  | ok scene => exact selectIn_of_agreeOn h (mentioned_subset (mem_scenes_of_get hget)) number

/-- Two players in the same scene of a book who `AgreeOn` the flags that some choice mentions get
the same answers in every run. As the beginnings of a run are runs, they are shown the same page
after every selection, and stand in the same scene and hold the same of these flags again. -/
theorem run_of_agreeOn_mentioned (h : AgreeOn book.mentioned a b) (numbers : List UInt32) :
    book.answers a numbers = book.answers b numbers ∧
      book.page (book.after a numbers) = book.page (book.after b numbers) ∧
      AgreeOn book.mentioned (book.after a numbers) (book.after b numbers) := by
  induction numbers generalizing a b with
  | nil => exact ⟨rfl, page_of_agreeOn h, h⟩
  | cons number rest ih =>
    obtain ⟨hanswer, hafter⟩ := select_of_agreeOn h number
    rw [answers_cons, answers_cons, hanswer, (ih hafter).1]
    exact ⟨rfl, (ih hafter).2⟩

/-! ### A story with a flag that is not mentioned -/

/-- A story in which nothing depends on the mud, and one choice breaks off. -/
def marshStory : Story :=
  ⟨"marsh",
    [⟨"marsh", "Reeds.", false,
        [⟨1, "Wade", .empty, .empty, none, [⟨.setFlag, "mud"⟩]⟩,
          ⟨2, "Climb", .empty, .ofList ["wet"], some "Too slippery.",
            [⟨.clearFlag, "mud"⟩, ⟨.gotoScene, "shore"⟩]⟩,
          ⟨3, "Sink", .empty, .empty, none,
            [⟨.setFlag, "wet"⟩, ⟨.clearFlag, ""⟩, ⟨.gotoScene, "shore"⟩]⟩]⟩,
      ⟨"shore", "Sand.", true, []⟩]⟩

/-- The book of `marshStory`. -/
def marshBook : Book := ⟨"marsh", marshStory.scenes, ⟨[("shore", 1), ("marsh", 0)]⟩, []⟩

theorem ofStory_marshStory : ofStory .warn marshStory = .ok marshBook := by
  refine ofStory_eq_ok_iff.mpr ⟨marshBook.index, by decide, by decide, by decide, ?_⟩
  have hmarsh : marshBook.index.targets marshStory.scenes "marsh" = ["shore", "shore"] := by
    decide
  have hshore : marshBook.index.targets marshStory.scenes "shore" = [] := by decide
  have htrail : marshBook.index.trailFrom marshStory.scenes "marsh" =
      ["shore", "shore", "marsh"] := by
    simp [Index.trailFrom, Index.trail_cons_of_notMem, Index.trail_cons_of_mem, hmarsh, hshore]
  rw [warningsOf, show marshStory.start = "marsh" from rfl, htrail]
  decide

/-- The mud of a player of `marshBook` who waded never shows. -/
theorem run_of_agreeOn_mentioned_of_mud : ofStory .warn marshStory = .ok marshBook ∧
    marshBook.Reachable ⟨"marsh", .empty⟩ ∧ marshBook.Reachable ⟨"marsh", .ofList ["mud"]⟩ ∧
    AgreeOn marshBook.mentioned ⟨"marsh", .empty⟩ ⟨"marsh", .ofList ["mud"]⟩ ∧
    ∀ numbers,
      marshBook.answers ⟨"marsh", .empty⟩ numbers =
          marshBook.answers ⟨"marsh", .ofList ["mud"]⟩ numbers ∧
        marshBook.page (marshBook.after ⟨"marsh", .empty⟩ numbers) =
          marshBook.page (marshBook.after ⟨"marsh", .ofList ["mud"]⟩ numbers) ∧
        AgreeOn marshBook.mentioned (marshBook.after ⟨"marsh", .empty⟩ numbers)
          (marshBook.after ⟨"marsh", .ofList ["mud"]⟩ numbers) :=
  have hagree : AgreeOn marshBook.mentioned ⟨"marsh", .empty⟩ ⟨"marsh", .ofList ["mud"]⟩ :=
    ⟨rfl, by decide⟩
  ⟨ofStory_marshStory, ⟨[], rfl⟩, ⟨[1], by decide⟩, hagree, run_of_agreeOn_mentioned hagree⟩

end Book

end Gamebook
