import Gamebook.Proofs.Manuscript.Form
import Gamebook.Proofs.Text.Lowercase

/-!
# The names of effects

A manuscript becomes a story when each of its effects has the name of a kind, in whatever case.
Then nothing is lost and nothing moves: scene by scene, choice by choice and effect by effect the
story is what was written. Otherwise the first name that no kind has is reported.

* `Effect.Kind.IsNamed` and `Manuscript.IsName`: the names of a kind, and of all kinds.
* `Manuscript.StandsFor`: a manuscript and the story that it is written for.
* `toStory_eq_ok_iff` and `toStory_eq_error_iff`: what becomes of a manuscript.
-/

namespace Gamebook

/-! ### Names of kinds -/

/-- Two characters are the same, or the two cases of a letter of ASCII. -/
def IsCaseOf (a b : Char) : Prop :=
  a = b ∨ a.isUpper = true ∧ b.toNat = a.toNat + 32 ∨ b.isUpper = true ∧ a.toNat = b.toNat + 32

/-- The case of letters is all that `Char.toLower` loses. -/
private theorem toLower_eq_toLower_iff {a b : Char} : a.toLower = b.toLower ↔ IsCaseOf a b := by
  rw [IsCaseOf, ← Char.toNat_inj, ← Char.toNat_inj, Text.toNat_toLower, Text.toNat_toLower]
  simp only [Text.isUpper_iff_toNat]
  split <;> split <;> omega

/-- `sameIgnoringCase` compares texts up to the case of the letters of ASCII, and with all else. -/
theorem sameIgnoringCase_iff {s t : String} :
    sameIgnoringCase s t = true ↔ List.Forall₂ IsCaseOf s.toList t.toList := by
  rw [sameIgnoringCase, beq_iff_eq, ← List.forall₂_eq_eq_eq, List.forall₂_map_left_iff,
    List.forall₂_map_right_iff]
  simp only [toLower_eq_toLower_iff]

/-- The text `tag` is a name of a kind of effects, up to the case of letters. -/
def Effect.Kind.IsNamed (kind : Effect.Kind) (tag : String) : Prop :=
  List.Forall₂ IsCaseOf tag.toList kind.name.toList

/-- `Effect.Kind.ofTag?` finds a kind under its names. -/
private theorem Effect.Kind.ofTag?_eq_some_iff {tag : String} {kind : Effect.Kind} :
    Effect.Kind.ofTag? tag = some kind ↔ kind.IsNamed tag := by
  -- no two kinds have a name in common
  have hinj : ∀ a b : Effect.Kind, a.name.toList.map Char.toLower =
      b.name.toList.map Char.toLower → a = b := by
    intro a b
    cases a <;> cases b <;> decide
  have hnamed : ∀ found, Effect.Kind.ofTag? tag = some found →
      sameIgnoringCase tag found.name = true := by
    intro found hfound
    rw [Effect.Kind.ofTag?] at hfound
    have hname := List.find?_some hfound
    exact hname
  rw [IsNamed, ← sameIgnoringCase_iff]
  constructor
  · exact hnamed kind
  · intro h
    have hsome : (Effect.Kind.ofTag? tag).isSome = true := by
      rw [Effect.Kind.ofTag?, List.find?_isSome]
      exact ⟨kind, by cases kind <;> decide, h⟩
    obtain ⟨found, hfound⟩ := Option.isSome_iff_exists.mp hsome
    have hname := hnamed found hfound
    rw [sameIgnoringCase, beq_iff_eq] at h hname
    rw [hfound, hinj found kind (hname.symm.trans h)]

namespace Manuscript

/-- The text `tag` is the name of some `Effect.Kind`. -/
def IsName (tag : String) : Prop := ∃ kind : Effect.Kind, kind.IsNamed tag

private theorem ofTag?_eq_none_iff {tag : String} :
    Effect.Kind.ofTag? tag = none ↔ ¬IsName tag := by
  rw [Option.eq_none_iff_forall_ne_some, IsName, not_exists]
  exact forall_congr' fun kind => not_congr Effect.Kind.ofTag?_eq_some_iff

/-! ### What a manuscript stands for -/

/-- An `EffectEntry` stands for the effect with its value whose kind has its name. -/
structure EffectEntry.StandsFor (entry : EffectEntry) (effect : Effect) : Prop where
  isNamed : effect.kind.IsNamed entry.tag
  value_eq : effect.value = entry.value

/-- A `ChoiceEntry` stands for the choice that says the same and has the effects it stands for. -/
structure ChoiceEntry.StandsFor (entry : ChoiceEntry) (choice : Choice) : Prop where
  number_eq : choice.number = entry.number
  text_eq : choice.text = entry.text
  mem_requiresAll : ∀ name, name ∈ choice.requiresAll ↔ name ∈ entry.requiresAll
  mem_requiresNone : ∀ name, name ∈ choice.requiresNone ↔ name ∈ entry.requiresNone
  disabledReason_eq : choice.disabledReason = entry.disabledReason
  effects : List.Forall₂ EffectEntry.StandsFor entry.effects choice.effects

/-- A `SceneEntry` stands for the scene that says the same and has the choices it stands for. -/
structure SceneEntry.StandsFor (entry : SceneEntry) (scene : Scene) : Prop where
  id_eq : scene.id = entry.id
  text_eq : scene.text = entry.text
  isEnd_eq : scene.isEnd = entry.isEnd
  choices : List.Forall₂ ChoiceEntry.StandsFor entry.choices scene.choices

/-- A `Manuscript` stands for the story that starts where it says and has the scenes it stands
for. -/
structure StandsFor (manuscript : Manuscript) (story : Story) : Prop where
  start_eq : story.start = manuscript.start
  scenes : List.Forall₂ SceneEntry.StandsFor manuscript.scenes story.scenes

private theorem EffectEntry.toEffect_eq_ok_iff {entry : EffectEntry} {effect : Effect} :
    entry.toEffect = .ok effect ↔ entry.StandsFor effect := by
  obtain ⟨kind, value⟩ := effect
  have hkind : Effect.Kind.ofTag? entry.tag = some kind ↔ kind.IsNamed entry.tag :=
    Effect.Kind.ofTag?_eq_some_iff
  rw [toEffect]
  constructor
  · intro h
    cases hfound : Effect.Kind.ofTag? entry.tag with
    | none =>
      rw [hfound] at h
      exact absurd h nofun
    | some found =>
      rw [hfound] at h
      cases h
      exact ⟨hkind.mp hfound, rfl⟩
  · rintro ⟨hname, hvalue⟩
    cases hvalue
    rw [hkind.mpr hname]

private theorem ChoiceEntry.toChoice_eq_ok_iff {entry : ChoiceEntry} {choice : Choice} :
    entry.toChoice = .ok choice ↔ entry.StandsFor choice := by
  rw [toChoice, bind_pure_comp, map_eq_ok_iff]
  simp only [mapM_eq_ok_iff, EffectEntry.toEffect_eq_ok_iff]
  constructor
  · rintro ⟨effects, heffects, rfl⟩
    exact ⟨rfl, rfl, fun _ => FlagSet.mem_ofList, fun _ => FlagSet.mem_ofList, rfl, heffects⟩
  · intro h
    have hall : FlagSet.ofList entry.requiresAll = choice.requiresAll :=
      FlagSet.ext fun name => FlagSet.mem_ofList.trans (h.mem_requiresAll name).symm
    have hnone : FlagSet.ofList entry.requiresNone = choice.requiresNone :=
      FlagSet.ext fun name => FlagSet.mem_ofList.trans (h.mem_requiresNone name).symm
    refine ⟨choice.effects, h.effects, ?_⟩
    rw [hall, hnone, ← h.number_eq, ← h.text_eq, ← h.disabledReason_eq]

private theorem SceneEntry.toScene_eq_ok_iff {entry : SceneEntry} {scene : Scene} :
    entry.toScene = .ok scene ↔ entry.StandsFor scene := by
  rw [toScene, bind_pure_comp, map_eq_ok_iff]
  simp only [mapM_eq_ok_iff, ChoiceEntry.toChoice_eq_ok_iff]
  constructor
  · rintro ⟨choices, hchoices, rfl⟩
    exact ⟨rfl, rfl, rfl, hchoices⟩
  · intro h
    refine ⟨scene.choices, h.choices, ?_⟩
    rw [← h.id_eq, ← h.text_eq, ← h.isEnd_eq]

/-- A `Manuscript` becomes a story exactly when it stands for it. -/
private theorem toStory_eq_ok_iff {manuscript : Manuscript} {story : Story} :
    manuscript.toStory = .ok story ↔ manuscript.StandsFor story := by
  rw [toStory, bind_pure_comp, map_eq_ok_iff]
  simp only [mapM_eq_ok_iff, SceneEntry.toScene_eq_ok_iff]
  constructor
  · rintro ⟨scenes, hscenes, rfl⟩
    exact ⟨rfl, hscenes⟩
  · intro h
    refine ⟨story.scenes, h.scenes, ?_⟩
    rw [← h.start_eq]

/-! ### The first unknown name -/

/-- The effects of a manuscript, scene by scene and choice by choice. -/
def effects (manuscript : Manuscript) : List EffectEntry :=
  manuscript.scenes.flatMap fun scene => scene.choices.flatMap (·.effects)

/-- The text `tag` is the first tag among some effects of which `IsName` fails. -/
def IsFirstUnknown (entries : List EffectEntry) (tag : String) : Prop :=
  ∃ before entry after, entries = before ++ entry :: after ∧ entry.tag = tag ∧ ¬IsName tag ∧
    ∀ other ∈ before, IsName other.tag

/-- The defect of the first effect that has the name of no kind. -/
private def unknown? (entries : List EffectEntry) : Option Defect :=
  (entries.find? fun entry => (Effect.Kind.ofTag? entry.tag).isNone).map fun entry =>
    .unknownEffect entry.tag

private theorem isNone_ofTag?_iff {tag : String} :
    (Effect.Kind.ofTag? tag).isNone = true ↔ ¬IsName tag :=
  Option.isNone_iff_eq_none.trans ofTag?_eq_none_iff

private theorem unknown?_eq_some_iff {entries : List EffectEntry} {defect : Defect} :
    unknown? entries = some defect ↔
      ∃ tag, IsFirstUnknown entries tag ∧ defect = .unknownEffect tag := by
  rw [unknown?, Option.map_eq_some_iff]
  simp only [List.find?_eq_some_iff_append, isNone_ofTag?_iff, Bool.not_eq_true',
    Bool.eq_false_iff, ne_eq, not_not]
  constructor
  · rintro ⟨entry, ⟨hunknown, before, after, heq, hbefore⟩, rfl⟩
    exact ⟨entry.tag, ⟨before, entry, after, heq, rfl, hunknown, hbefore⟩, rfl⟩
  · rintro ⟨_, ⟨before, entry, after, heq, rfl, hunknown, hbefore⟩, rfl⟩
    exact ⟨entry, ⟨hunknown, before, after, heq, hbefore⟩, rfl⟩

/-- Some tag is the first unknown one when `IsName` fails of any. -/
theorem exists_isFirstUnknown_iff {entries : List EffectEntry} :
    (∃ tag, IsFirstUnknown entries tag) ↔ ∃ entry ∈ entries, ¬IsName entry.tag := by
  constructor
  · rintro ⟨_, before, entry, after, rfl, rfl, hunknown, -⟩
    exact ⟨entry, List.mem_append_right _ List.mem_cons_self, hunknown⟩
  · rintro ⟨entry, hentry, hunknown⟩
    have hsome : (unknown? entries).isSome = true := by
      rw [unknown?, Option.isSome_map, List.find?_isSome]
      exact ⟨entry, hentry, isNone_ofTag?_iff.mpr hunknown⟩
    obtain ⟨defect, hdefect⟩ := Option.isSome_iff_exists.mp hsome
    obtain ⟨tag, htag, -⟩ := unknown?_eq_some_iff.mp hdefect
    exact ⟨tag, htag⟩

/-- `unknown?` of effects that are put together is that of the first of them that have one. -/
private theorem unknown?_flatMap {α : Type} {l : List α} {f : α → List EffectEntry} :
    unknown? (l.flatMap f) = l.findSome? fun a => unknown? (f a) := by
  rw [unknown?, List.find?_flatMap, List.map_findSome?]
  rfl

/-- `List.mapM` fails with the first of the faults. -/
private theorem mapM_eq_error_iff {α β ε : Type} {f : α → Except ε β} {fault? : α → Option ε}
    (h : ∀ a e, f a = .error e ↔ fault? a = some e) {l : List α} {e : ε} :
    l.mapM f = .error e ↔ l.findSome? fault? = some e := by
  induction l with
  | nil => exact iff_of_false nofun nofun
  | cons a rest ih =>
    rw [List.mapM_cons, List.findSome?_cons]
    cases hhead : f a with
    | error fault =>
      rw [(h a fault).mp hhead]
      exact ⟨fun heq => congrArg some (Except.error.inj heq),
        fun heq => congrArg Except.error (Option.some.inj heq)⟩
    | ok b =>
      have hnone : fault? a = none := by
        rw [Option.eq_none_iff_forall_ne_some]
        intro fault hfault
        exact absurd (hhead.symm.trans ((h a fault).mpr hfault)) nofun
      rw [hnone]
      change (rest.mapM f >>= fun bs => pure (b :: bs)) = .error e ↔ _
      rw [bind_pure_comp, map_eq_error_iff, ih]

private theorem EffectEntry.toEffect_eq_error_iff {entry : EffectEntry} {defect : Defect} :
    entry.toEffect = .error defect ↔ unknown? [entry] = some defect := by
  rw [toEffect, unknown?]
  cases hfound : Effect.Kind.ofTag? entry.tag with
  | none => simp [hfound]
  | some kind => simp [hfound]

private theorem ChoiceEntry.toChoice_eq_error_iff {entry : ChoiceEntry} {defect : Defect} :
    entry.toChoice = .error defect ↔ unknown? entry.effects = some defect := by
  rw [toChoice, bind_pure_comp, map_eq_error_iff,
    mapM_eq_error_iff fun _ _ => EffectEntry.toEffect_eq_error_iff, ← unknown?_flatMap,
    List.flatMap_singleton']

private theorem SceneEntry.toScene_eq_error_iff {entry : SceneEntry} {defect : Defect} :
    entry.toScene = .error defect ↔
      unknown? (entry.choices.flatMap (·.effects)) = some defect := by
  rw [toScene, bind_pure_comp, map_eq_error_iff,
    mapM_eq_error_iff fun _ _ => ChoiceEntry.toChoice_eq_error_iff, ← unknown?_flatMap]

/-- A `Manuscript` becomes no story when it has an unknown name. The one for which `IsFirstUnknown`
holds is reported. -/
theorem toStory_eq_error_iff {manuscript : Manuscript} {defect : Defect} :
    manuscript.toStory = .error defect ↔
      ∃ tag, IsFirstUnknown manuscript.effects tag ∧ defect = .unknownEffect tag := by
  rw [toStory, bind_pure_comp, map_eq_error_iff,
    mapM_eq_error_iff fun _ _ => SceneEntry.toScene_eq_error_iff, ← unknown?_flatMap]
  exact unknown?_eq_some_iff

/-- A `Manuscript` with none but known names stands for a story. -/
theorem exists_standsFor {manuscript : Manuscript}
    (h : ∀ entry ∈ manuscript.effects, IsName entry.tag) :
    ∃ story, manuscript.toStory = .ok story ∧ manuscript.StandsFor story := by
  cases hstory : manuscript.toStory with
  | error defect =>
    obtain ⟨tag, htag, -⟩ := toStory_eq_error_iff.mp hstory
    obtain ⟨entry, hentry, hunknown⟩ := exists_isFirstUnknown_iff.mp ⟨tag, htag⟩
    exact absurd (h entry hentry) hunknown
  | ok story => exact ⟨story, rfl, toStory_eq_ok_iff.mp hstory⟩

end Manuscript

end Gamebook
