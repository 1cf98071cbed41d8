import Gamebook.Proofs.Json.Ascii
import Gamebook.Proofs.Manuscript.Written

/-!
# Story files in ASCII

Every story can be written as a story file in ASCII, and every such file is loaded. What is loaded
is the story with its texts recoded: a character of U+20000 to U+2FFFF, or of any higher plane with
an even number, becomes the one with the same place in the plane before. So the story comes back as
it was exactly if none of its texts holds such a character, and ids that differ may become the same.

* `Story.mapText` and `Story.texts`: the story with its texts changed, and these texts.
* `Story.IsCodedAs`: how a story is written in ASCII.
* `Story.ofText_of_isCodedAs`: what is loaded from such a file.
-/

namespace Gamebook

open Json (Part SpellsBy Token Value isPlain losesPlane map_eq_self_iff recodedText
  recodedText_eq_self_iff)
open Manuscript (HasMembers HoldsEach)

/-! ### The texts of a story -/

section Texts

variable (f : String → String)

/-- The `FlagSet` of the changed names. -/
def FlagSet.mapText (flags : FlagSet) : FlagSet := .ofList (flags.names.map f)

/-- An `Effect` with its value changed. -/
def Effect.mapText (effect : Effect) : Effect := { effect with value := f effect.value }

/-- A `Choice` with its texts changed, those of its flags and effects included. -/
def Choice.mapText (choice : Choice) : Choice where
  number := choice.number
  text := f choice.text
  requiresAll := choice.requiresAll.mapText f
  requiresNone := choice.requiresNone.mapText f
  disabledReason := choice.disabledReason.map f
  effects := choice.effects.map (Effect.mapText f)

/-- A `Scene` with its texts changed. -/
def Scene.mapText (scene : Scene) : Scene where
  id := f scene.id
  text := f scene.text
  isEnd := scene.isEnd
  choices := scene.choices.map (Choice.mapText f)

/-- A `Story` with its texts changed. -/
def Story.mapText (story : Story) : Story where
  start := f story.start
  scenes := story.scenes.map (Scene.mapText f)

end Texts

/-- The texts of a `Choice`. -/
def Choice.texts (choice : Choice) : List String :=
  choice.text :: (choice.requiresAll.names ++ choice.requiresNone.names ++
    choice.disabledReason.toList ++ choice.effects.map (·.value))

/-- The texts of a `Scene`. -/
def Scene.texts (scene : Scene) : List String :=
  scene.id :: scene.text :: scene.choices.flatMap Choice.texts

/-- The texts of a `Story`: ids, names of flags, and what is shown. -/
def Story.texts (story : Story) : List String :=
  story.start :: story.scenes.flatMap Scene.texts

/-! ### Stories that are kept -/

section Kept

variable {f : String → String}

/-- `FlagSet.mapText` keeps a set exactly if each of its names is kept, where changing twice is
changing once. Otherwise two names could be exchanged. -/
private theorem FlagSet.mapText_eq_self_iff (hf : ∀ s, f (f s) = f s) {flags : FlagSet} :
    flags.mapText f = flags ↔ ∀ name ∈ flags.names, f name = name := by
  constructor
  · intro h name hname
    rw [← mem_iff, ← h, mapText, mem_ofList] at hname
    obtain ⟨other, _, rfl⟩ := List.mem_map.mp hname
    exact hf other
  · intro h
    refine FlagSet.ext fun name => ?_
    rw [mapText, mem_ofList, map_eq_self_iff.mpr h, mem_iff]

private theorem Effect.mapText_eq_self_iff {effect : Effect} :
    effect.mapText f = effect ↔ f effect.value = effect.value := by
  rw [mapText, Effect.mk.injEq]
  exact and_iff_right rfl

private theorem Choice.mapText_eq_self_iff (hf : ∀ s, f (f s) = f s) {choice : Choice} :
    choice.mapText f = choice ↔ ∀ s ∈ choice.texts, f s = s := by
  have hreason : choice.disabledReason.map f = choice.disabledReason ↔
      ∀ s ∈ choice.disabledReason.toList, f s = s := by
    cases choice.disabledReason <;> simp
  have heffects : choice.effects.map (Effect.mapText f) = choice.effects ↔
      ∀ s ∈ choice.effects.map (·.value), f s = s := by
    simp only [map_eq_self_iff, Effect.mapText_eq_self_iff, List.forall_mem_map]
  obtain ⟨number, text, required, forbidden, reason, effects⟩ := choice
  simp only [mapText, texts, Choice.mk.injEq, FlagSet.mapText_eq_self_iff hf, hreason, heffects,
    List.forall_mem_cons, List.forall_mem_append, true_and, and_assoc]

private theorem Scene.mapText_eq_self_iff (hf : ∀ s, f (f s) = f s) {scene : Scene} :
    scene.mapText f = scene ↔ ∀ s ∈ scene.texts, f s = s := by
  obtain ⟨id, text, isEnd, choices⟩ := scene
  simp only [mapText, texts, Scene.mk.injEq, map_eq_self_iff,
    Choice.mapText_eq_self_iff hf, List.forall_mem_cons, List.forall_mem_flatMap, true_and]

/-- `Story.mapText` keeps a story exactly if each of its texts is kept. -/
private theorem Story.mapText_eq_self_iff (hf : ∀ s, f (f s) = f s) {story : Story} :
    story.mapText f = story ↔ ∀ s ∈ story.texts, f s = s := by
  obtain ⟨start, scenes⟩ := story
  simp only [mapText, texts, Story.mk.injEq, map_eq_self_iff, Scene.mapText_eq_self_iff hf,
    List.forall_mem_cons, List.forall_mem_flatMap]

end Kept

/-! ### Values with other texts -/

section Values

variable {f : String → String}

namespace Manuscript

theorem HasMembers.mapText {members : List (String × Value)} {v : Value}
    (h : HasMembers members v) : HasMembers (Value.mapMembers f members) (v.mapText f) := by
  obtain ⟨l, rfl, hl⟩ := h
  refine ⟨Value.mapMembers f l, rfl, ?_⟩
  rw [Value.mapMembers_eq_map, Value.mapMembers_eq_map]
  exact hl.map _

theorem HoldsEach.mapText {α : Type} {held : α → Value → Prop} {g : α → α} {things : List α}
    {v : Value} (h : HoldsEach held things v)
    (hmap : ∀ thing item, held thing item → held (g thing) (item.mapText f)) :
    HoldsEach held (things.map g) (v.mapText f) := by
  obtain ⟨items, rfl, hitems⟩ := h
  refine ⟨Value.mapItems f items, rfl, ?_⟩
  rw [Value.mapItems_eq_map, List.forall₂_map_left_iff, List.forall₂_map_right_iff]
  exact hitems.imp hmap

end Manuscript

theorem FlagSet.HeldBy.mapText {flags : FlagSet} {v : Value} (h : flags.HeldBy v) :
    (flags.mapText f).HeldBy (v.mapText f) := by
  obtain ⟨names, rfl, hnames⟩ := h
  refine ⟨names.map f, ?_, fun name => ?_⟩
  · rw [Value.mapText, Value.mapItems_eq_map, List.map_map, List.map_map]
    rfl
  · rw [FlagSet.mapText, FlagSet.mem_ofList, List.mem_map, List.mem_map]
    exact exists_congr fun other => and_congr_left' (hnames other)

-- The keys and the names of the kinds of effects are in ASCII.
variable (hf : ∀ text : String, text.toList.all isPlain = true → f text = text)
include hf

theorem Effect.HeldBy.mapText {effect : Effect} {v : Value} (h : effect.HeldBy v) :
    (effect.mapText f).HeldBy (v.mapText f) := by
  have hkind : f effect.kind.name = effect.kind.name := by
    cases effect.kind <;> exact hf _ (by decide)
  have hmembers := HasMembers.mapText (f := f) h
  simp only [Value.mapMembers, Value.mapText, hkind, hf "type" (by decide),
    hf "value" (by decide)] at hmembers
  exact hmembers

theorem Choice.HeldBy.mapText {choice : Choice} {v : Value} (h : choice.HeldBy v) :
    (choice.mapText f).HeldBy (v.mapText f) := by
  obtain ⟨required, forbidden, effects, hrequired, hforbidden, heffects, hmembers⟩ := h
  refine ⟨_, _, _, hrequired.mapText, hforbidden.mapText,
    heffects.mapText fun _ _ => Effect.HeldBy.mapText hf, ?_⟩
  have hreason : ((choice.disabledReason.map Value.string).getD .null).mapText f =
      ((choice.disabledReason.map f).map Value.string).getD .null := by
    cases choice.disabledReason <;> rfl
  have hmapped := HasMembers.mapText (f := f) hmembers
  simp only [Value.mapMembers, hreason, hf "number" (by decide), hf "text" (by decide),
    hf "requiresAll" (by decide), hf "requiresNone" (by decide), hf "disabledReason" (by decide),
    hf "effects" (by decide)] at hmapped
  exact hmapped

theorem Scene.HeldBy.mapText {scene : Scene} {v : Value} (h : scene.HeldBy v) :
    (scene.mapText f).HeldBy (v.mapText f) := by
  obtain ⟨choices, hchoices, hmembers⟩ := h
  refine ⟨_, hchoices.mapText fun _ _ => Choice.HeldBy.mapText hf, ?_⟩
  have hmapped := HasMembers.mapText (f := f) hmembers
  simp only [Value.mapMembers, hf "id" (by decide), hf "text" (by decide),
    hf "isEnd" (by decide), hf "choices" (by decide)] at hmapped
  exact hmapped

/-- The value of a story with its texts changed is that of the changed story, with `Value.mapText`
on the one side and `Story.mapText` on the other. -/
theorem Story.HeldBy.mapText {story : Story} {v : Value} (h : story.HeldBy v) :
    (story.mapText f).HeldBy (v.mapText f) := by
  obtain ⟨scenes, hscenes, hmembers⟩ := h
  refine ⟨_, hscenes.mapText fun _ _ => Scene.HeldBy.mapText hf, ?_⟩
  have hmapped := HasMembers.mapText (f := f) hmembers
  simp only [Value.mapMembers, hf "startSceneId" (by decide), hf "scenes" (by decide)] at hmapped
  exact hmapped

end Values

/-! ### Loading -/

/-- A `Story` is written as a text in ASCII. -/
def Story.IsCodedAs (story : Story) (text : String) : Prop :=
  ∃ v, story.HeldBy v ∧ v.IsCodedAs text

/-- `Story.ofText` loads from a file in ASCII the story with its texts recoded. -/
theorem Story.IsCodedAs.ofText_eq {story : Story} {text : String} (h : story.IsCodedAs text) :
    Story.ofText text = .ok (story.mapText recodedText) := by
  obtain ⟨v, hheld, hcoded⟩ := h
  rw [hcoded.isIn.ofText_eq, (hheld.mapText fun _ => Json.recodedText_of_isPlain).ofValue_eq]

/-- A story can be written as a story file in ASCII. What `Story.ofText` loads from each such file
is the story with each text replaced by its `recodedText`, which is the story itself exactly if no
text holds a character that is read as another one. -/
theorem Story.ofText_of_isCodedAs (story : Story) :
    (∃ text, story.IsCodedAs text) ∧
      ∀ text, story.IsCodedAs text →
        Story.ofText text = .ok (story.mapText recodedText) ∧
          (Story.ofText text = .ok story ↔
            ∀ s ∈ story.texts, ∀ c ∈ s.toList, losesPlane c = false) := by
  constructor
  · obtain ⟨v, hheld, hwritable⟩ := story.exists_heldBy
    obtain ⟨text, htext⟩ := hwritable.exists_isCodedAs
    exact ⟨text, v, hheld, htext⟩
  · intro text htext
    refine ⟨htext.ofText_eq, ?_⟩
    rw [htext.ofText_eq, Except.ok.injEq, Story.mapText_eq_self_iff Json.recodedText_recodedText]
    exact forall₂_congr fun s _ => recodedText_eq_self_iff

/-! ### Stories of one scene -/

/-- A story of one scene where nothing is said. -/
def soleStory (id : String) : Story := ⟨id, [⟨id, "", true, []⟩]⟩

/-- The characters of the file of a story of one scene, around its id as it is written. -/
def soleChars (quoted : List Char) : List Char :=
  "\x7b\"startSceneId\":".toList ++ (quoted ++ (",\"scenes\":[\x7b\"id\":".toList ++
    (quoted ++ ",\"text\":\"\",\"isEnd\":true,\"choices\":[]\x7d]\x7d".toList)))

/-- The file of a `soleStory`, around its id as it is written. -/
def soleText (quoted : String) : String := .ofList (soleChars quoted.toList)

/-- The file of a `soleStory` is in ASCII if the id is. -/
private theorem isCodedAs_soleText {id quoted : String} {parts : List (List Char)}
    (hparts : List.Forall₂ Json.CodedAs id.toList parts)
    (hquoted : quoted.toList = '"' :: (parts.flatten ++ ['"'])) :
    (soleStory id).IsCodedAs (soleText quoted) := by
  have hheld : (soleStory id).HeldBy
      (.object [("startSceneId", .string id), ("scenes", .array [.object
        [("id", .string id), ("text", .string ""), ("isEnd", .bool true),
          ("choices", .array [])]])]) :=
    ⟨_, ⟨_, rfl, .cons ⟨_, ⟨_, rfl, .nil⟩, _, rfl, .rfl⟩ .nil⟩, _, rfl, .rfl⟩
  have hscene : (Part.value (.object [("id", .string id), ("text", .string ""),
      ("isEnd", .bool true), ("choices", .array [])])).Written _ :=
    .object <| .member (.string _) <| .member (.string _) <| .member (.bool true) <|
      .lastMember (.array .noItem)
  have hwritten : (Part.value (.object [("startSceneId", .string id),
      ("scenes", .array [_])])).Written _ :=
    .object <| .member (.string _) <| .lastMember (.array (.lastItem hscene))
  have hspells : SpellsBy Token.CodedAs _ _ :=
    .cons .nil (.mark '\x7b' rfl) <|
    .cons .nil (.plain "startSceneId" (by decide)) <|
    .cons .nil (.mark ':' rfl) <|
    .cons .nil (.string id hparts) <|
    .cons .nil (.mark ',' rfl) <|
    .cons .nil (.plain "scenes" (by decide)) <|
    .cons .nil (.mark ':' rfl) <|
    .cons .nil (.mark '[' rfl) <|
    .cons .nil (.mark '\x7b' rfl) <|
    .cons .nil (.plain "id" (by decide)) <|
    .cons .nil (.mark ':' rfl) <|
    .cons .nil (.string id hparts) <|
    .cons .nil (.mark ',' rfl) <|
    .cons .nil (.plain "text" (by decide)) <|
    .cons .nil (.mark ':' rfl) <|
    .cons .nil (.plain "" (by decide)) <|
    .cons .nil (.mark ',' rfl) <|
    .cons .nil (.plain "isEnd" (by decide)) <|
    .cons .nil (.mark ':' rfl) <|
    .cons .nil
      (.other (.name (List.mem_cons_of_mem _ List.mem_cons_self)) fun _ => Token.noConfusion) <|
    .cons .nil (.mark ',' rfl) <|
    .cons .nil (.plain "choices" (by decide)) <|
    .cons .nil (.mark ':' rfl) <|
    .cons .nil (.mark '[' rfl) <|
    .cons .nil (.mark ']' rfl) <|
    .cons .nil (.mark '\x7d' rfl) <|
    .cons .nil (.mark ']' rfl) <|
    .cons .nil (.mark '\x7d' rfl) <|
    .nil .nil
  refine ⟨_, hheld, _, hwritten, ?_⟩
  have htext : (soleText quoted).toList = soleChars quoted.toList := String.toList_ofList
  rw [htext, hquoted]
  exact hspells

/-- The id is the emoji U+1F600. Its units are joined to the character that they stand for. -/
theorem Story.ofText_of_isCodedAs_emoji :
    (soleStory "😀").IsCodedAs (soleText "\"\\ud83d\\ude00\"") ∧
      Story.ofText (soleText "\"\\ud83d\\ude00\"") = .ok (soleStory "😀") := by
  have hcode : Json.CodedAs '😀' _ :=
    .codes (by decide) <|
      .cons ⟨13, 8, 3, 13, 'd', '8', '3', 'd', by decide, rfl⟩ <|
      .cons ⟨13, 14, 0, 0, 'd', 'e', '0', '0', by decide, rfl⟩ .nil
  have hcoded : (soleStory "😀").IsCodedAs (soleText "\"\\ud83d\\ude00\"") :=
    isCodedAs_soleText (.cons hcode .nil) (by decide)
  refine ⟨hcoded, ((Story.ofText_of_isCodedAs _).2 _ hcoded).2.mpr ?_⟩
  simp [soleStory, Story.texts, Scene.texts, losesPlane]

/-- The id is the ideograph U+20000, and the scene is loaded under the id U+10000. -/
theorem Story.ofText_of_ideograph :
    (soleStory "𠀀").IsCodedAs (soleText "\"\\ud840\\udc00\"") ∧
      Story.ofText (soleText "\"\\ud840\\udc00\"") = .ok (soleStory "𐀀") ∧
      Story.ofText (soleText "\"\\ud840\\udc00\"") ≠ .ok (soleStory "𠀀") := by
  have hcode : Json.CodedAs '𠀀' _ :=
    .codes (by decide) <|
      .cons ⟨13, 8, 4, 0, 'd', '8', '4', '0', by decide, rfl⟩ <|
      .cons ⟨13, 12, 0, 0, 'd', 'c', '0', '0', by decide, rfl⟩ .nil
  have hcoded : (soleStory "𠀀").IsCodedAs (soleText "\"\\ud840\\udc00\"") :=
    isCodedAs_soleText (.cons hcode .nil) (by decide)
  have hloaded : Story.ofText (soleText "\"\\ud840\\udc00\"") = .ok (soleStory "𐀀") := by
    rw [hcoded.ofText_eq]
    exact congrArg Except.ok (by decide)
  refine ⟨hcoded, hloaded, ?_⟩
  rw [hloaded, ne_eq, Except.ok.injEq]
  decide

end Gamebook
