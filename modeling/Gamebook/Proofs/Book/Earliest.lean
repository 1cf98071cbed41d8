import Gamebook.Proofs.Book.Policy

/-!
# The first defect of a story

A story may have any number of defects. Each has a place, which is a list of numbers from the
outside to the inside: the test of the story, the scene, the choice, the test of the choice, the
effect. The check refuses a story for the defect at the earliest place.

* `Finds At result`: `result` is what a search gives that stops at the earliest place at which
  there is anything, where `At` says what is where.
* `finds_scan` is the search of a list, member by member.
* `Story.DefectAt`, with `Scene.DefectAt` and `Choice.DefectAt`, lists all defects of a story with
  their places, without the check.
* `Book.ofStory_reports_earliest`: the check finds the earliest of them.
-/

namespace Gamebook

/-! ### Places -/

/-- The order of places: the first number in which they differ decides, and what is cut short
comes before what goes on. -/
def Before (place other : List Nat) : Prop := List.Lex (· < ·) place other

namespace Before

variable {place other third : List Nat} {i j : Nat}

theorem irrefl : ¬ Before place place := List.lex_irrefl Nat.lt_irrefl place

theorem trans (h : Before place other) (h' : Before other third) : Before place third :=
  List.lex_trans Nat.lt_trans h h'

@[simp]
theorem cons_cons_iff : Before (i :: place) (j :: other) ↔ i < j ∨ i = j ∧ Before place other :=
  List.cons_lex_cons_iff

end Before

/-! ### Searches that stop at the first hit -/

section Search

variable {α β : Type}

/-- Something `At` a place, with nothing else there nor anything before it. -/
structure IsEarliest (At : List Nat → β → Prop) (place : List Nat) (b : β) : Prop where
  here : At place b
  first : ∀ other c, At other c → other = place ∧ c = b ∨ Before place other

/-- What a search gives that stops at the earliest place where there is anything, as `IsEarliest`
says. -/
inductive Finds (At : List Nat → β → Prop) : Option β → Prop where
  | nothing (h : ∀ place b, ¬ At place b) : Finds At none
  | found {place : List Nat} {b : β} (h : IsEarliest At place b) : Finds At (some b)

variable {At Other : List Nat → β → Prop} {result : Option β}

/-- There is only one place that `IsEarliest`, and only one thing there. -/
theorem IsEarliest.unique {place other : List Nat} {b c : β} (h : IsEarliest At place b)
    (h' : IsEarliest At other c) : c = b := by
  rcases h.first other c h'.here with ⟨-, heq⟩ | hbefore
  · exact heq
  · rcases h'.first place b h.here with ⟨-, heq⟩ | hbehind
    · exact heq.symm
    · exact absurd (hbefore.trans hbehind) Before.irrefl

/-- A search `Finds` what is at the earliest place. -/
private theorem Finds.eq_some_iff (h : Finds At result) {b : β} :
    result = some b ↔ ∃ place, IsEarliest At place b := by
  cases h with
  | nothing hnone =>
    refine iff_of_false nofun ?_
    rintro ⟨place, hfirst⟩
    exact hnone place b hfirst.here
  | found hfirst =>
    constructor
    · rintro ⟨⟩
      exact ⟨_, hfirst⟩
    · rintro ⟨place, hother⟩
      exact congrArg some (hother.unique hfirst)

/-- A search `Finds` nothing exactly when there is nothing. -/
private theorem Finds.eq_none_iff (h : Finds At result) :
    result = none ↔ ∀ place b, ¬ At place b := by
  cases h with
  | nothing hnone => exact iff_of_true rfl hnone
  | found hfirst => exact iff_of_false nofun fun hnone => hnone _ _ hfirst.here

/-- What a search finds depends on nothing but what is where. -/
theorem Finds.congr (h : Finds At result) (heq : ∀ place b, At place b ↔ Other place b) :
    Finds Other result := by
  obtain rfl : At = Other := funext fun place => funext fun b => propext (heq place b)
  exact h

/-- Two searches in turn: what the first one searches lies at the places that begin with zero, and
what the second one searches lies behind it. -/
theorem Finds.cons {First Rest : List Nat → β → Prop} {first rest : Option β}
    (hfirst : Finds First first) (hrest : Finds Rest rest) (hend : ∀ b, ¬ Rest [] b)
    (hnil : ∀ b, ¬ At [] b) (hzero : ∀ place b, At (0 :: place) b ↔ First place b)
    (hsucc : ∀ i place b, At ((i + 1) :: place) b ↔ Rest (i :: place) b) :
    Finds At (first.or rest) := by
  -- a place is the empty one, one of the first search or one of the second
  cases hfirst with
  | found h =>
    refine .found ⟨(hzero _ _).mpr h.here, ?_⟩
    rintro (- | ⟨- | i, other⟩) c hother
    · exact absurd hother (hnil c)
    · rcases h.first other c ((hzero _ _).mp hother) with ⟨rfl, rfl⟩ | hbefore
      · exact Or.inl ⟨rfl, rfl⟩
      · exact Or.inr (.cons hbefore)
    · exact Or.inr (.rel i.succ_pos)
  | nothing hnone =>
    cases hrest with
    | nothing hnothing =>
      refine .nothing ?_
      rintro (- | ⟨- | i, place⟩) b h
      · exact hnil b h
      · exact hnone place b ((hzero _ _).mp h)
      · exact hnothing _ b ((hsucc _ _ _).mp h)
    | @found place b h =>
      obtain - | ⟨i, place⟩ := place
      · exact absurd h.here (hend b)
      refine .found ⟨(hsucc _ _ _).mpr h.here, ?_⟩
      rintro (- | ⟨- | j, other⟩) c hother
      · exact absurd hother (hnil c)
      · exact absurd ((hzero _ _).mp hother) (hnone other c)
      · rcases h.first _ c ((hsucc _ _ _).mp hother) with ⟨heq, rfl⟩ | hbefore
        · cases heq
          exact Or.inl ⟨rfl, rfl⟩
        · exact Or.inr (by simpa using hbefore)

/-- What there is along a list: at the position of each member, what there is at the member, given
the members before it. -/
def Along (At : List α → α → List Nat → β → Prop) (l : List α) : List Nat → β → Prop
  | [], _ => False
  | i :: place, b => ∃ a, l[i]? = some a ∧ At (l.take i) a place b

/-- The first hit in a list, where the members before a member count as well. -/
def scan (hit? : List α → α → Option β) : List α → List α → Option β
  | _, [] => none
  | before, a :: rest => (hit? before a).or (scan hit? (before ++ [a]) rest)

/-- A search `At` each member is a search `Along` the list. -/
theorem finds_scan {At : List α → α → List Nat → β → Prop} {hit? : List α → α → Option β}
    (h : ∀ before a, Finds (At before a) (hit? before a)) (before l : List α) :
    Finds (Along (fun inner => At (before ++ inner)) l) (scan hit? before l) := by
  induction l generalizing before with
  | nil =>
    refine .nothing ?_
    rintro (- | ⟨i, place⟩) b hsome
    · exact hsome
    · obtain ⟨a, hmem, -⟩ := hsome
      cases hmem
  | cons a rest ih =>
    refine (h before a).cons (ih (before ++ [a])) (fun b => id) (fun b => id) ?_ ?_
    · intro place b
      simp [Along]
    · intro i place b
      simp [Along]

/-- A `scan` that does not mind the members before a member is `List.findSome?`. -/
private theorem scan_const {hit? : α → Option β} {before l : List α} :
    scan (fun _ => hit?) before l = l.findSome? hit? := by
  induction l generalizing before with
  | nil => rfl
  | cons a rest ih =>
    rw [scan, ih, List.findSome?_cons]
    cases hit? a <;> rfl

/-- A `scan` in which each member is a hit by itself or is none. -/
private theorem finds_scan_members {hit? : List α → α → Option β} {before l : List α} :
    Finds (fun place b => ∃ i a, place = [i] ∧ l[i]? = some a ∧
      hit? (before ++ l.take i) a = some b) (scan hit? before l) := by
  have hmember : ∀ inner a, Finds (fun place b => place = [] ∧ hit? inner a = some b)
      (hit? inner a) := by
    intro inner a
    cases hit? inner a with
    | none => exact .nothing fun place b h => nomatch h.2
    | some b =>
      refine .found ⟨⟨rfl, rfl⟩, ?_⟩
      rintro other c ⟨rfl, ⟨⟩⟩
      exact Or.inl ⟨rfl, rfl⟩
  refine (finds_scan hmember before l).congr fun place b => ?_
  constructor
  · intro h
    obtain - | ⟨i, place⟩ := place
    · exact h.elim
    · obtain ⟨a, hmem, rfl, hhit⟩ := h
      exact ⟨i, a, rfl, hmem, hhit⟩
  · rintro ⟨i, a, rfl, hmem, hhit⟩
    exact ⟨a, hmem, rfl, hhit⟩

end Search

/-! ### The defects of a story -/

/-- Each `Defect` of a choice, in the order of the tests of a choice. The ids are those of the
story's scenes, the numbers those of the choices before it in its scene. -/
inductive Choice.DefectAt (choice : Choice) (ids : List String) (scene : String)
    (before : List UInt32) : List Nat → Defect → Prop where
  | zeroChoice (h : choice.number = 0) : DefectAt choice ids scene before [0] (.zeroChoice scene)
  | duplicateChoice (h : choice.number ∈ before) :
    DefectAt choice ids scene before [1] (.duplicateChoice scene choice.number)
  | noEffects (h : choice.effects = []) :
    DefectAt choice ids scene before [2] (.noEffects scene choice.number)
  | danglingTarget {k : Nat} {target : String}
    (heffect : choice.effects[k]? = some ⟨.gotoScene, target⟩) (h : target ∉ ids) :
    DefectAt choice ids scene before [3, k] (.danglingTarget scene choice.number target)

/-- Each `Defect` of a scene. A dead end has no choices, so its place is the scene itself. -/
inductive Scene.DefectAt (scene : Scene) (ids : List String) (policy : DeadEndPolicy) :
    List Nat → Defect → Prop where
  | choice {j : Nat} {choice : Choice} {place : List Nat} {defect : Defect}
    (hchoice : scene.choices[j]? = some choice)
    (h : choice.DefectAt ids scene.id ((scene.choices.take j).map (·.number)) place defect) :
    DefectAt scene ids policy (j :: place) defect
  | deadEnd (hpolicy : policy = .deny) (hend : scene.isEnd = false) (h : scene.choices = []) :
    DefectAt scene ids policy [] (.deadEnd scene.id)

/-- Each `Defect` of a story: ids of earlier scenes, then a start that is no scene, then the defects
of the scenes. -/
inductive Story.DefectAt (story : Story) (policy : DeadEndPolicy) : List Nat → Defect → Prop where
  | duplicateScene {i : Nat} {scene : Scene} (hscene : story.scenes[i]? = some scene)
    (h : scene.id ∈ (story.scenes.take i).map (·.id)) :
    DefectAt story policy [0, i] (.duplicateScene scene.id)
  | missingStart (h : story.start ∉ story.scenes.map (·.id)) :
    DefectAt story policy [1] (.missingStart story.start)
  | scene {i : Nat} {scene : Scene} {place : List Nat} {defect : Defect}
    (hscene : story.scenes[i]? = some scene)
    (h : scene.DefectAt (story.scenes.map (·.id)) policy place defect) :
    DefectAt story policy (2 :: i :: place) defect

/-! ### The check finds the first defect -/

section Check

variable {index : Index} {ids : List String}

/-- `Choice.unknownTarget?` is the first unknown target in the order of the effects. -/
private theorem Choice.finds_unknownTarget? {choice : Choice}
    (hids : ∀ id, index.knows id = true ↔ id ∈ ids) :
    Finds (fun place target => ∃ k, place = [k] ∧
        choice.effects[k]? = some ⟨.gotoScene, target⟩ ∧ target ∉ ids)
      (choice.unknownTarget? index) := by
  -- the targets are searched effect by effect
  have hscan : choice.unknownTarget? index = scan
      (fun _ effect => effect.target?.filter fun id => !index.knows id) [] choice.effects := by
    rw [scan_const, unknownTarget?]
    induction choice.effects with
    | nil => rfl
    | cons effect rest ih =>
      rw [List.filterMap_cons, List.findSome?_cons, ← ih]
      cases effect.target? with
      | none => rfl
      | some id =>
        dsimp only
        rw [List.find?_cons, Option.filter_some]
        cases index.knows id <;> rfl
  have hhit : ∀ (effect : Effect) (target : String),
      (effect.target?.filter fun id => !index.knows id) = some target ↔
        effect = ⟨.gotoScene, target⟩ ∧ target ∉ ids := by
    intro effect target
    rw [Option.filter_eq_some_iff, Effect.target?_eq_some_iff, ← hids, Bool.not_eq_true',
      Bool.not_eq_true]
  rw [hscan]
  refine finds_scan_members.congr fun place target => ?_
  simp only [hhit]
  constructor
  · rintro ⟨k, _, rfl, heffect, rfl, hmissing⟩
    exact ⟨k, rfl, heffect, hmissing⟩
  · rintro ⟨k, rfl, heffect, hmissing⟩
    exact ⟨k, _, rfl, heffect, rfl, hmissing⟩

/-- `Choice.defect?` finds the first `Choice.DefectAt`. -/
private theorem Choice.finds_defect? {choice : Choice} {scene : String}
    {before numbers : List UInt32} (hids : ∀ id, index.knows id = true ↔ id ∈ ids)
    (hnumbers : ∀ number, number ∈ numbers ↔ number ∈ before) :
    Finds (choice.DefectAt ids scene before) (choice.defect? index scene numbers) := by
  rw [defect?]
  split
  · next hzero =>
    refine .found ⟨.zeroChoice hzero, ?_⟩
    rintro other defect (- | - | - | -)
    · exact Or.inl ⟨rfl, rfl⟩
    all_goals exact Or.inr (.rel (by decide))
  · next hzero =>
    split
    · next hsame =>
      rw [List.contains_iff_mem, hnumbers] at hsame
      refine .found ⟨.duplicateChoice hsame, ?_⟩
      rintro other defect (h | - | - | -)
      · exact absurd h hzero
      · exact Or.inl ⟨rfl, rfl⟩
      all_goals exact Or.inr (.rel (by decide))
    · next hnew =>
      rw [List.contains_iff_mem, hnumbers] at hnew
      split
      · next hnil =>
        refine .found ⟨.noEffects (List.isEmpty_iff.mp hnil), ?_⟩
        rintro other defect (h | h | - | -)
        · exact absurd h hzero
        · exact absurd h hnew
        · exact Or.inl ⟨rfl, rfl⟩
        · exact Or.inr (.rel (by decide))
      · next hsome =>
        rw [List.isEmpty_iff] at hsome
        have htargets := choice.finds_unknownTarget? hids
        generalize choice.unknownTarget? index = target? at htargets
        cases htargets with
        | nothing hnone =>
          refine .nothing ?_
          rintro place defect (h | h | h | ⟨heffect, hmissing⟩)
          · exact hzero h
          · exact hnew h
          · exact hsome h
          · exact hnone _ _ ⟨_, rfl, heffect, hmissing⟩
        | found hfirst =>
          obtain ⟨k, rfl, heffect, hmissing⟩ := hfirst.here
          refine .found ⟨.danglingTarget heffect hmissing, ?_⟩
          rintro other defect (h | h | h | ⟨hother, hunknown⟩)
          · exact absurd h hzero
          · exact absurd h hnew
          · exact absurd h hsome
          · rcases hfirst.first _ _ ⟨_, rfl, hother, hunknown⟩ with ⟨⟨⟩, rfl⟩ | hbefore
            · exact Or.inl ⟨rfl, rfl⟩
            · exact Or.inr (.cons hbefore)

/-- `choicesDefect?` is a `scan` of the choices in their order. -/
private theorem choicesDefect?_eq_scan {scene : String} (before choices : List Choice) :
    choicesDefect? index scene (before.map (·.number)).reverse choices = scan
      (fun before choice => choice.defect? index scene (before.map (·.number)).reverse) before
      choices := by
  induction choices generalizing before with
  | nil => rfl
  | cons choice rest ih =>
    have hnumbers : choice.number :: (before.map (·.number)).reverse =
        ((before ++ [choice]).map (·.number)).reverse := by simp
    rw [choicesDefect?_cons, hnumbers, ih, scan]

/-- `Scene.defect?` finds the first `Scene.DefectAt`. -/
private theorem Scene.finds_defect? {scene : Scene} {policy : DeadEndPolicy}
    (hids : ∀ id, index.knows id = true ↔ id ∈ ids) :
    Finds (scene.DefectAt ids policy) (scene.defect? index policy) := by
  have hchoices : Finds (Along (fun before choice =>
      choice.DefectAt ids scene.id (before.map (·.number))) scene.choices)
      (choicesDefect? index scene.id [] scene.choices) := by
    have hscan : choicesDefect? index scene.id [] scene.choices = scan
        (fun before choice => choice.defect? index scene.id (before.map (·.number)).reverse) []
        scene.choices := choicesDefect?_eq_scan [] scene.choices
    have hchoice : ∀ (before : List Choice) (choice : Choice),
        Finds (choice.DefectAt ids scene.id (before.map (·.number)))
          (choice.defect? index scene.id (before.map (·.number)).reverse) :=
      fun before choice => choice.finds_defect? hids fun _ => List.mem_reverse
    rw [hscan]
    exact finds_scan hchoice [] scene.choices
  rw [defect?]
  generalize choicesDefect? index scene.id [] scene.choices = first? at hchoices
  cases hchoices with
  | @found place defect hfirst =>
    -- there is a choice, so the scene is no dead end
    rw [Option.some_or]
    obtain - | ⟨j, place⟩ := place
    · exact hfirst.here.elim
    obtain ⟨choice, hchoice, hdefect⟩ := hfirst.here
    refine .found ⟨.choice hchoice hdefect, ?_⟩
    rintro other second (⟨hother, hsecond⟩ | ⟨-, -, hnil⟩)
    · exact hfirst.first _ _ ⟨_, hother, hsecond⟩
    · rw [hnil] at hchoice
      cases hchoice
  | nothing hnone =>
    rw [Option.none_or]
    split
    · next h =>
      obtain ⟨hdeny, hdead⟩ := h
      rw [isDeadEnd, Bool.and_eq_true, Bool.not_eq_true', List.isEmpty_iff] at hdead
      refine .found ⟨.deadEnd hdeny hdead.1 hdead.2, ?_⟩
      rintro other defect (⟨hchoice, hdefect⟩ | -)
      · exact absurd ⟨_, hchoice, hdefect⟩ (hnone (_ :: _) _)
      · exact Or.inl ⟨rfl, rfl⟩
    · next h =>
      refine .nothing ?_
      rintro place defect (⟨hchoice, hdefect⟩ | ⟨hdeny, hend, hnil⟩)
      · exact hnone (_ :: _) _ ⟨_, hchoice, hdefect⟩
      · exact h ⟨hdeny, by rw [isDeadEnd, hend, hnil]; rfl⟩

/-- `Index.fileAll` fails at the first id of an earlier scene. -/
private theorem Index.fileAll_eq_error_iff_scan {position : Nat} {before scenes : List Scene}
    (hknows : ∀ id, index.knows id = true ↔ id ∈ before.map (·.id)) {defect : Defect} :
    index.fileAll position scenes = .error defect ↔
      scan (fun before scene => if scene.id ∈ before.map (·.id)
        then some (Defect.duplicateScene scene.id) else none) before scenes = some defect := by
  induction scenes generalizing index position before with
  | nil => exact iff_of_false nofun nofun
  | cons scene rest ih =>
    rw [fileAll, scan]
    by_cases hscene : scene.id ∈ before.map (·.id)
    · rw [if_pos ((hknows _).mpr hscene), if_pos hscene, Option.some_or, Except.error.injEq,
        Option.some.injEq]
    · rw [if_neg (mt (hknows _).mp hscene), if_neg hscene, Option.none_or]
      refine ih fun id => ?_
      rw [knows_file, Bool.or_eq_true, decide_eq_true_iff, hknows, List.map_append,
        List.mem_append, List.map_singleton, List.mem_singleton, or_comm]

end Check

/-! ### The check of a story -/

section Scenes

variable {scenes : List Scene} {index : Index}

/-- The defect of the first scene that has the id of an earlier scene. -/
private def duplicateScene? (scenes : List Scene) : Option Defect :=
  scan (fun before scene => if scene.id ∈ before.map (·.id)
    then some (.duplicateScene scene.id) else none) [] scenes

/-- `Index.ofScenes` fails because of the first scene with the id of an earlier scene. -/
private theorem Index.ofScenes_eq_error_iff {defect : Defect} :
    ofScenes scenes = .error defect ↔ duplicateScene? scenes = some defect := by
  have hknows : ∀ id, empty.knows id = true ↔ id ∈ ([] : List Scene).map (·.id) :=
    fun _ => iff_of_false Bool.false_ne_true List.not_mem_nil
  exact fileAll_eq_error_iff_scan hknows

private theorem finds_duplicateScene? : Finds (fun place defect => ∃ i scene, place = [i] ∧
      scenes[i]? = some scene ∧ scene.id ∈ (scenes.take i).map (·.id) ∧
        .duplicateScene scene.id = defect) (duplicateScene? scenes) := by
  refine finds_scan_members.congr fun place defect => ?_
  simp only [List.nil_append, Option.ite_none_right_eq_some, Option.some.injEq]

/-- In a list of scenes that `Index.ofScenes` takes no scene has the id of an earlier one. -/
private theorem Index.notMem_take_of_ofScenes (h : ofScenes scenes = .ok index) {i : Nat}
    {scene : Scene} (hscene : scenes[i]? = some scene) : scene.id ∉ (scenes.take i).map (·.id) := by
  have hnone : duplicateScene? scenes = none := by
    refine Option.eq_none_iff_forall_ne_some.mpr fun defect hdefect => ?_
    cases (ofScenes_eq_error_iff.mpr hdefect).symm.trans h
  intro hmem
  exact finds_duplicateScene?.eq_none_iff.mp hnone _ _ ⟨i, scene, rfl, hscene, hmem, rfl⟩

/-- Searching the scenes with `Scene.defect?` finds the first `Scene.DefectAt` along the list. -/
private theorem finds_findSome?_defect? (h : Index.ofScenes scenes = .ok index)
    {policy : DeadEndPolicy} :
    Finds (Along (fun _ scene => scene.DefectAt (scenes.map (·.id)) policy) scenes)
      (scenes.findSome? (·.defect? index policy)) := by
  rw [← scan_const]
  exact finds_scan (fun _ scene => scene.finds_defect? (Index.knows_of_ofScenes h)) [] scenes

end Scenes

namespace Book

variable {policy : DeadEndPolicy} {story : Story}

/-- A story of which `Book.ofStory` makes a book has no `Story.DefectAt`. -/
private theorem not_defectAt_of_ofStory {book : Book} (h : ofStory policy story = .ok book)
    (place : List Nat) (defect : Defect) : ¬ story.DefectAt policy place defect := by
  obtain ⟨index, hindex, hstart, hscenes, -⟩ := ofStory_eq_ok_iff.mp h
  have hfaultless := List.findSome?_eq_none_iff.mpr hscenes
  rintro (⟨hscene, hsame⟩ | hmissing | ⟨hscene, hdefect⟩)
  · exact Index.notMem_take_of_ofScenes hindex hscene hsame
  · exact hmissing ((Index.knows_of_ofScenes hindex _).mp hstart)
  · exact (finds_findSome?_defect? hindex).eq_none_iff.mp hfaultless (_ :: _) _
      ⟨_, hscene, hdefect⟩

/-- `Book.ofStory` refuses a story for its earliest `Story.DefectAt`. -/
private theorem exists_isEarliest_of_ofStory {defect : Defect}
    (h : ofStory policy story = .error defect) :
    ∃ place, IsEarliest (story.DefectAt policy) place defect := by
  rcases ofStory_eq_error_iff.mp h with htwice | ⟨index, hindex, ⟨hstart, rfl⟩ | ⟨hstart, hfirst⟩⟩
  · obtain ⟨place, hearliest⟩ :=
      finds_duplicateScene?.eq_some_iff.mp (Index.ofScenes_eq_error_iff.mp htwice)
    obtain ⟨i, scene, rfl, hscene, hsame, rfl⟩ := hearliest.here
    refine ⟨[0, i], .duplicateScene hscene hsame, ?_⟩
    rintro other second (⟨hother, hsecond⟩ | - | -)
    · rcases hearliest.first _ _ ⟨_, _, rfl, hother, hsecond, rfl⟩ with ⟨⟨⟩, heq⟩ | hbefore
      · exact Or.inl ⟨rfl, heq⟩
      · exact Or.inr (.cons hbefore)
    all_goals exact Or.inr (.rel (by decide))
  · have hmissing : story.start ∉ story.scenes.map (·.id) := by
      rw [← Index.knows_of_ofScenes hindex, hstart]
      exact Bool.false_ne_true
    refine ⟨[1], .missingStart hmissing, ?_⟩
    rintro other second (⟨hother, hsecond⟩ | - | -)
    · exact absurd hsecond (Index.notMem_take_of_ofScenes hindex hother)
    · exact Or.inl ⟨rfl, rfl⟩
    · exact Or.inr (.rel (by decide))
  · obtain ⟨place, hearliest⟩ := (finds_findSome?_defect? hindex).eq_some_iff.mp hfirst
    obtain - | ⟨i, place⟩ := place
    · exact hearliest.here.elim
    obtain ⟨scene, hscene, hdefect⟩ := hearliest.here
    refine ⟨2 :: i :: place, .scene hscene hdefect, ?_⟩
    rintro other second (⟨hother, hsecond⟩ | hmissing | ⟨hother, hsecond⟩)
    · exact absurd hsecond (Index.notMem_take_of_ofScenes hindex hother)
    · exact absurd ((Index.knows_of_ofScenes hindex _).mp hstart) hmissing
    · rcases hearliest.first (_ :: _) _ ⟨_, hother, hsecond⟩ with ⟨⟨⟩, rfl⟩ | hbefore
      · exact Or.inl ⟨rfl, rfl⟩
      · exact Or.inr (.cons hbefore)

end Book

/-! ### Missing targets -/

/-- The targets of a story that no scene has as its id, each with the position of the scene, of the
choice in the scene and of the effect in the choice. -/
inductive Story.MissingTargetAt (story : Story) : List Nat → Defect → Prop where
  | mk {i j k : Nat} {scene : Scene} {choice : Choice} {target : String}
    (hscene : story.scenes[i]? = some scene) (hchoice : scene.choices[j]? = some choice)
    (heffect : choice.effects[k]? = some ⟨.gotoScene, target⟩)
    (h : target ∉ story.scenes.map (·.id)) :
    MissingTargetAt story [i, j, k] (.danglingTarget scene.id choice.number target)

/-- A `Story.MissingTargetAt` is a defect of the story. So where the first defect is a missing
target, it is the first missing target. -/
private theorem Story.isEarliest_missingTargetAt {story : Story} {policy : DeadEndPolicy}
    {place : List Nat} {id target : String} {number : UInt32}
    (h : IsEarliest (story.DefectAt policy) place (.danglingTarget id number target)) :
    ∃ i j k, place = [2, i, j, 3, k] ∧
      IsEarliest story.MissingTargetAt [i, j, k] (.danglingTarget id number target) := by
  obtain ⟨hhere, hfirst⟩ := h
  cases hhere with
  | @scene i scene place _ hscene hdefect =>
    cases hdefect with
    | @choice j choice place _ hchoice hdefect =>
      cases hdefect with
      | @danglingTarget k _ heffect hmissing =>
        refine ⟨i, j, k, rfl, .mk hscene hchoice heffect hmissing, ?_⟩
        rintro other second ⟨hscene', hchoice', heffect', hmissing'⟩
        rcases hfirst _ _ (.scene hscene' (.choice hchoice' (.danglingTarget heffect' hmissing')))
          with ⟨⟨⟩, heq⟩ | hbefore
        · exact Or.inl ⟨rfl, heq⟩
        · refine Or.inr ?_
          simpa using hbefore

namespace Book

/-- `Book.ofStory` refuses a story exactly for its earliest `Story.DefectAt`, in this order: the
first scene with the id of an earlier one, a start that is no scene, and the scenes in their order,
in each scene the choices in their order, and for each choice the number zero, the number of an
earlier choice of the scene, a lack of effects and the first target that no scene has. Under the
strict policy a dead end is a defect in the place of the scene. In particular, a target for which a
story is refused is the first one in the whole story that no scene has. -/
theorem ofStory_reports_earliest (policy : DeadEndPolicy) (story : Story) :
    (∀ defect, ofStory policy story = .error defect ↔
      ∃ place, IsEarliest (story.DefectAt policy) place defect) ∧
    ∀ id number target, ofStory policy story = .error (.danglingTarget id number target) →
      ∃ place, IsEarliest story.MissingTargetAt place (.danglingTarget id number target) := by
  refine ⟨fun defect => ⟨exists_isEarliest_of_ofStory, ?_⟩, fun id number target h => ?_⟩
  · rintro ⟨place, hearliest⟩
    cases hresult : ofStory policy story with
    | ok book => exact absurd hearliest.here (not_defectAt_of_ofStory hresult place defect)
    | error other =>
      obtain ⟨otherPlace, hother⟩ := exists_isEarliest_of_ofStory hresult
      rw [hearliest.unique hother]
  · obtain ⟨place, hearliest⟩ := exists_isEarliest_of_ofStory h
    obtain ⟨i, j, k, -, hmissing⟩ := Story.isEarliest_missingTargetAt hearliest
    exact ⟨[i, j, k], hmissing⟩

/-! ### A story with many defects -/

/-- A story with three missing targets, a number used twice, a choice without effects, the number
zero and a dead end. -/
def ruinStory : Story :=
  ⟨"nave",
    [⟨"nave", "Moss.", false,
        [⟨1, "Descend", .empty, .empty, none,
            [⟨.setFlag, "bell"⟩, ⟨.gotoScene, "crypt"⟩, ⟨.gotoScene, "tower"⟩]⟩,
          ⟨1, "Wait", .empty, .empty, none, []⟩]⟩,
      ⟨"porch", "Rain.", false, []⟩, loft]⟩

/-- `ruinStory` is refused for the first of its missing targets. -/
theorem ofStory_ruinStory :
    ofStory .deny ruinStory = .error (.danglingTarget "nave" 1 "crypt") ∧
      (∃ place, IsEarliest (ruinStory.DefectAt .deny) place (.danglingTarget "nave" 1 "crypt")) ∧
      ∃ place, IsEarliest ruinStory.MissingTargetAt place (.danglingTarget "nave" 1 "crypt") := by
  have hrefused : ofStory .deny ruinStory = .error (.danglingTarget "nave" 1 "crypt") := by decide
  obtain ⟨hearliest, hmissing⟩ := ofStory_reports_earliest .deny ruinStory
  exact ⟨hrefused, (hearliest _).mp hrefused, hmissing _ _ _ hrefused⟩

end Book

end Gamebook
