import Gamebook.Proofs.Book.Playable

/-!
# The two policies on dead ends

A lenient check and a strict check look at the scenes in the same order, and a dead end has no
choices in which the lenient check could find a fault. So the strict check finds what the lenient
one finds unless a dead end stands before it. The lenient check warns of every dead end of a story
that it accepts, so its warnings tell what the strict check would have said.

* `findSome?_defect?_deny`: the first fault of scenes in which the lenient check finds none.
* `Book.ofStory_deny_of_ok` and `Book.ofStory_deny_of_error`: the strict check of a story, given
  what the lenient check makes of it.
* `Book.ofStory_deny_of_ofStory_warn`: the two policies compared on every story.
-/

namespace Gamebook

/-! ### Where a defect lies -/

/-- The scene in whose choices a `Defect` lies, if it lies in the choices of a scene. -/
def Defect.choiceScene? : Defect → Option String
  | .danglingTarget scene _ _ | .duplicateChoice scene _ | .zeroChoice scene
  | .noEffects scene _ => some scene
  | .duplicateScene _ | .missingStart _ | .deadEnd _ | .blankValue _ | .unknownEffect _ => none

/-- A `Defect` comes from a choice of the scene at a position. -/
def Story.LiesAt (story : Story) (defect : Defect) (position : Nat) : Prop :=
  ∃ scene, story.scenes[position]? = some scene ∧ defect.choiceScene? = some scene.id

/-- The id of the first dead end before a position. -/
def Story.deadEndBefore? (story : Story) (position : Nat) : Option String :=
  ((story.scenes.take position).find? Scene.isDeadEnd).map (·.id)

/-- A `Choice.defect?` lies in the choices of its scene. -/
private theorem Choice.choiceScene?_of_defect? {choice : Choice} {index : Index} {id : String}
    {before : List UInt32} {defect : Defect} (h : choice.defect? index id before = some defect) :
    defect.choiceScene? = some id := by
  rw [Choice.defect?] at h
  split at h
  · cases h
    rfl
  · split at h
    · cases h
      rfl
    · split at h
      · cases h
        rfl
      · obtain ⟨target, -, rfl⟩ := Option.map_eq_some_iff.mp h
        rfl

/-- What `choicesDefect?` finds lies in the choices of the scene. -/
private theorem choiceScene?_of_choicesDefect? {index : Index} {id : String} {before : List UInt32}
    {choices : List Choice} {defect : Defect}
    (h : choicesDefect? index id before choices = some defect) :
    defect.choiceScene? = some id := by
  induction choices generalizing before with
  | nil => exact absurd h (by simp)
  | cons choice rest ih =>
    rw [choicesDefect?_cons, Option.or_eq_some_iff] at h
    rcases h with hfirst | ⟨-, hrest⟩
    · exact Choice.choiceScene?_of_defect? hfirst
    · exact ih hrest

/-- What `Index.fileAll` fails for lies in the choices of no scene. -/
private theorem Index.choiceScene?_of_fileAll {index : Index} {position : Nat} {scenes : List Scene}
    {defect : Defect} (h : index.fileAll position scenes = .error defect) :
    defect.choiceScene? = none := by
  induction scenes generalizing index position with
  | nil => cases h
  | cons scene rest ih =>
    rw [fileAll] at h
    split at h
    · cases h
      rfl
    · exact ih h

/-- In a story in which no two scenes have the same id, `Story.LiesAt` holds for one scene only. -/
private theorem Story.liesAt_iff {story : Story} (h : (story.scenes.map (·.id)).Nodup)
    {defect : Defect} {position other : Nat} {scene : Scene}
    (hscene : story.scenes[position]? = some scene)
    (hdefect : defect.choiceScene? = some scene.id) :
    story.LiesAt defect other ↔ other = position := by
  constructor
  · rintro ⟨twin, htwin, hsame⟩
    have hlt : other < (story.scenes.map (·.id)).length := by
      rw [List.length_map]
      exact (List.getElem?_eq_some_iff.mp htwin).1
    refine (List.getElem?_inj hlt h).mp ?_
    rw [List.getElem?_map, List.getElem?_map, htwin, hscene]
    exact hsame.symm.trans hdefect
  · rintro rfl
    exact ⟨scene, hscene, hdefect⟩

/-! ### The strict check of scenes -/

section Scenes

variable {index : Index}

/-- Under `DeadEndPolicy.deny` the check looks for a dead end after it has looked at the choices. -/
private theorem Scene.defect?_deny {scene : Scene} : scene.defect? index .deny =
    (scene.defect? index .warn).or
      (if scene.isDeadEnd then some (.deadEnd scene.id) else none) := by
  rw [Scene.defect?_warn, Scene.defect?]
  simp

/-- Where the lenient `Scene.defect?` is none for every scene, the strict check finds the first dead
end. -/
private theorem findSome?_defect?_deny {scenes : List Scene}
    (h : ∀ scene ∈ scenes, scene.defect? index .warn = none) :
    scenes.findSome? (·.defect? index .deny) =
      (scenes.find? Scene.isDeadEnd).map fun scene => .deadEnd scene.id := by
  induction scenes with
  | nil => rfl
  | cons scene rest ih =>
    rw [List.forall_mem_cons] at h
    rw [List.findSome?_cons, Scene.defect?_deny, h.1, Option.none_or, List.find?_cons]
    cases hdead : scene.isDeadEnd with
    | true => rfl
    | false => exact ih h.2

/-- Where the lenient check finds its first fault behind some scenes, the strict check finds the
first dead end among these scenes, or else the same fault. -/
private theorem findSome?_defect?_deny_append {before rest : List Scene} {scene : Scene}
    {defect : Defect} (hbefore : ∀ scene ∈ before, scene.defect? index .warn = none)
    (hscene : scene.defect? index .warn = some defect) :
    (before ++ scene :: rest).findSome? (·.defect? index .deny) =
      some (((before.find? Scene.isDeadEnd).map fun scene => .deadEnd scene.id).getD defect) := by
  rw [List.findSome?_append, findSome?_defect?_deny hbefore, List.findSome?_cons,
    Scene.defect?_deny, hscene, Option.some_or]
  cases before.find? Scene.isDeadEnd <;> rfl

end Scenes

/-! ### The dead ends that a book warns of -/

/-- The scene of a `Warning.deadEnd`. -/
def Warning.deadEnd? : Warning → Option String
  | .deadEnd scene => some scene
  | .unreachable _ => none

namespace Book

/-- The scene of each `Warning.deadEnd` of a book, in the order of the warnings. -/
def deadEnds (book : Book) : List String := book.warnings.filterMap Warning.deadEnd?

variable {story : Story} {book : Book} {defect : Defect}

/-- `Book.deadEnds` are the dead ends of the story, in their order. -/
private theorem deadEnds_of_ofStory {policy : DeadEndPolicy} (h : ofStory policy story = .ok book) :
    book.deadEnds = (story.scenes.filter Scene.isDeadEnd).map (·.id) := by
  obtain ⟨index, -, -, -, rfl⟩ := ofStory_eq_ok_iff.mp h
  have hunreachable : ∀ reached, (unreachableWarnings reached story.scenes).filterMap
      Warning.deadEnd? = [] := by
    intro reached
    simp [unreachableWarnings, Warning.deadEnd?]
  rw [deadEnds, warningsOf, List.filterMap_append, hunreachable, List.append_nil,
    deadEndWarnings, List.filterMap_map]
  exact congrFun List.filterMap_eq_map _

/-! ### The strict check of a story -/

/-- A story that the lenient check accepts passes the strict check as well, and the book is the
same, unless `Book.deadEnds` has a member; then the first is what the strict check finds. -/
private theorem ofStory_deny_of_ok (h : ofStory .warn story = .ok book) :
    ofStory .deny story =
      match book.deadEnds.head? with
      | some id => .error (.deadEnd id)
      | none => .ok book := by
  rw [deadEnds_of_ofStory h, List.head?_map, List.head?_filter]
  obtain ⟨index, hindex, hstart, hscenes, rfl⟩ := ofStory_eq_ok_iff.mp h
  have hfirst := findSome?_defect?_deny hscenes
  rw [ofStory, hindex]
  simp only [hstart, if_true, hfirst]
  cases story.scenes.find? Scene.isDeadEnd <;> rfl

/-- What the lenient check refuses the strict check refuses. The defect is the same, unless it lies
in the choices of a scene and there is a `Story.deadEndBefore?` that scene; then this dead end is
what the strict check finds. -/
private theorem ofStory_deny_of_error (h : ofStory .warn story = .error defect) :
    (defect.choiceScene? = none ∧ ofStory .deny story = .error defect) ∨
      ∃ position, (∀ other, story.LiesAt defect other ↔ other = position) ∧
        ofStory .deny story =
          .error (((story.deadEndBefore? position).map .deadEnd).getD defect) := by
  rcases ofStory_eq_error_iff.mp h with htwice | ⟨index, hindex, ⟨hstart, rfl⟩ | ⟨hstart, hfirst⟩⟩
  · exact Or.inl ⟨Index.choiceScene?_of_fileAll htwice, ofStory_eq_error_iff.mpr (Or.inl htwice)⟩
  · exact Or.inl ⟨rfl, ofStory_eq_error_iff.mpr (Or.inr ⟨index, hindex, Or.inl ⟨hstart, rfl⟩⟩)⟩
  · -- no scene before the faulty one has a fault, so nothing but a dead end there comes first
    obtain ⟨before, scene, rest, hscenes, hdefect, hbefore⟩ :=
      List.findSome?_eq_some_iff.mp hfirst
    have hscene : story.scenes[before.length]? = some scene := by simp [hscenes]
    have htake : story.scenes.take before.length = before := by simp [hscenes]
    refine Or.inr ⟨before.length, fun other => ?_, ?_⟩
    · exact Story.liesAt_iff (Index.exists_ofScenes_iff.mp ⟨index, hindex⟩) hscene
        (choiceScene?_of_choicesDefect? (Scene.defect?_warn.symm.trans hdefect))
    · rw [ofStory_eq_error_iff, Story.deadEndBefore?, htake, Option.map_map]
      refine Or.inr ⟨index, hindex, Or.inr ⟨hstart, ?_⟩⟩
      rw [hscenes]
      exact findSome?_defect?_deny_append hbefore hdefect

/-- The strict check accepts what the lenient check accepts with no `Book.deadEnds`. -/
private theorem ofStory_deny_eq_ok_iff : ofStory .deny story = .ok book ↔
    ofStory .warn story = .ok book ∧ book.deadEnds = [] := by
  cases hwarn : ofStory .warn story with
  | ok other =>
    rw [ofStory_deny_of_ok hwarn, Except.ok.injEq]
    cases hdead : other.deadEnds with
    | nil =>
      refine ⟨fun h => ?_, fun h => congrArg _ h.1⟩
      cases h
      exact ⟨rfl, hdead⟩
    | cons id rest =>
      refine ⟨nofun, ?_⟩
      rintro ⟨rfl, hnone⟩
      exact absurd (hdead.symm.trans hnone) (List.cons_ne_nil id rest)
  | error defect =>
    refine ⟨fun h => ?_, fun h => nomatch h.1⟩
    rcases ofStory_deny_of_error hwarn with ⟨-, hdeny⟩ | ⟨position, -, hdeny⟩
    · cases hdeny.symm.trans h
    · cases hdeny.symm.trans h

/-- How `DeadEndPolicy.deny` and `DeadEndPolicy.warn` are related, on every story. The strict check
accepts a story exactly when the lenient check does so without a warning of a dead end, and the book
is the same. Where there are such warnings, the strict check refuses the story for the first of
them. What the lenient check refuses is refused for the same defect, unless the defect lies in the
choices of a scene behind a dead end; then the first dead end is what the story is refused for. -/
theorem ofStory_deny_of_ofStory_warn (story : Story) :
    (∀ book, ofStory .deny story = .ok book ↔
      ofStory .warn story = .ok book ∧ book.deadEnds = []) ∧
    (∀ book id, ofStory .warn story = .ok book → book.deadEnds.head? = some id →
      ofStory .deny story = .error (.deadEnd id)) ∧
    ∀ defect, ofStory .warn story = .error defect →
      (∀ position id, story.LiesAt defect position → story.deadEndBefore? position = some id →
        ofStory .deny story = .error (.deadEnd id)) ∧
      ((∀ position, story.LiesAt defect position → story.deadEndBefore? position = none) →
        ofStory .deny story = .error defect) := by
  refine ⟨fun book => ofStory_deny_eq_ok_iff, fun book id hwarn hfirst => ?_,
    fun defect hwarn => ?_⟩
  · rw [ofStory_deny_of_ok hwarn, hfirst]
  · rcases ofStory_deny_of_error hwarn with ⟨hnowhere, hdeny⟩ | ⟨position, hlies, hdeny⟩
    · refine ⟨?_, fun _ => hdeny⟩
      rintro position id ⟨scene, -, hscene⟩
      exact nomatch hnowhere.symm.trans hscene
    · constructor
      · intro other id hother hdead
        rw [(hlies other).mp hother] at hdead
        rw [hdeny, hdead]
        rfl
      · intro hnone
        rw [hdeny, hnone position ((hlies position).mpr rfl)]
        rfl

/-! ### Stories with a fault before and behind a dead end -/

/-- A scene whose only choice has the number zero. -/
def loft : Scene :=
  ⟨"loft", "Beams.", false, [⟨0, "Fall", .empty, .empty, none, [⟨.gotoScene, "well"⟩]⟩]⟩

/-- `cellStory` with the loft behind its dead end. -/
def loftBehind : Story := ⟨"cell", cellStory.scenes ++ [loft]⟩

/-- `cellStory` with the loft in front of its dead end. -/
def loftInFront : Story := ⟨"cell", loft :: cellStory.scenes⟩

/-- The strict check refuses `cellStory` for its dead end, also with the loft behind it, but with
the loft in front for the number zero. -/
theorem ofStory_deny_loft :
    (ofStory .warn cellStory = .ok cellBook ∧ cellBook.deadEnds.head? = some "well" ∧
      ofStory .deny cellStory = .error (.deadEnd "well")) ∧
    (ofStory .warn loftBehind = .error (.zeroChoice "loft") ∧
      loftBehind.LiesAt (.zeroChoice "loft") 4 ∧ loftBehind.deadEndBefore? 4 = some "well" ∧
      ofStory .deny loftBehind = .error (.deadEnd "well")) ∧
    (ofStory .warn loftInFront = .error (.zeroChoice "loft") ∧
      (∀ position, loftInFront.LiesAt (.zeroChoice "loft") position →
        loftInFront.deadEndBefore? position = none) ∧
      ofStory .deny loftInFront = .error (.zeroChoice "loft")) := by
  have hcell : cellBook.deadEnds.head? = some "well" := by decide
  have hbehind : ofStory .warn loftBehind = .error (.zeroChoice "loft") := by decide
  have hlies : loftBehind.LiesAt (.zeroChoice "loft") 4 := ⟨loft, rfl, rfl⟩
  have hdead : loftBehind.deadEndBefore? 4 = some "well" := by decide
  have hfront : ofStory .warn loftInFront = .error (.zeroChoice "loft") := by decide
  have hnone : ∀ position, loftInFront.LiesAt (.zeroChoice "loft") position →
      loftInFront.deadEndBefore? position = none := by
    have hall : ∀ position < 5, loftInFront.scenes[position]?.map (·.id) = some "loft" →
        loftInFront.deadEndBefore? position = none := by decide
    rintro position ⟨scene, hscene, hid⟩
    refine hall position (List.getElem?_eq_some_iff.mp hscene).1 ?_
    exact (congrArg _ hscene).trans hid.symm
  exact ⟨⟨ofStory_cellStory, hcell,
      (ofStory_deny_of_ofStory_warn cellStory).2.1 cellBook "well" ofStory_cellStory hcell⟩,
    ⟨hbehind, hlies, hdead,
      ((ofStory_deny_of_ofStory_warn loftBehind).2.2 _ hbehind).1 4 "well" hlies hdead⟩,
    ⟨hfront, hnone, ((ofStory_deny_of_ofStory_warn loftInFront).2.2 _ hfront).2 hnone⟩⟩

end Book

end Gamebook
