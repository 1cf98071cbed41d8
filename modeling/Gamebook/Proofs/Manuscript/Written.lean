import Gamebook.Proofs.Json.Settle
import Gamebook.Proofs.Json.Written

/-!
# Written stories

Every story can be written as a story file, and every file that it is written as loads back as the
story. A value holds a story under the keys of the documented format. The members of an object and
the flags of a set may stand in any order, since reading an object sorts its members and reading a
set sorts its flags.

* `Story.HeldBy` and `Story.IsWrittenAs`: the values and the texts of a story.
* `Story.HeldBy.ofValue_eq`: the value of a story is read as the story.
-/

namespace Gamebook

open Json (Gap Part Spells Value foldKey)

/-! ### The values of a story -/

namespace Manuscript

/-- A value is an object with the members `members`, in some order. -/
def HasMembers (members : List (String × Value)) (v : Value) : Prop :=
  ∃ l, v = .object l ∧ l.Perm members

/-- A value is an array that holds each of some `things` in turn. -/
def HoldsEach {α : Type} (held : α → Value → Prop) (things : List α) (v : Value) : Prop :=
  ∃ items, v = .array items ∧ List.Forall₂ held things items

end Manuscript

open Manuscript (HasMembers HoldsEach)

/-- A value is an array of the flags of a `FlagSet`, in some order. -/
def FlagSet.HeldBy (flags : FlagSet) (v : Value) : Prop :=
  ∃ names : List String, v = .array (names.map .string) ∧ ∀ name, name ∈ names ↔ name ∈ flags

/-- A value holds an `Effect`. -/
def Effect.HeldBy (effect : Effect) : Value → Prop :=
  HasMembers [("type", .string effect.kind.name), ("value", .string effect.value)]

/-- A value holds a `Choice`. Where no reason is given, `null` stands for it. -/
def Choice.HeldBy (choice : Choice) (v : Value) : Prop :=
  ∃ required forbidden effects : Value, choice.requiresAll.HeldBy required ∧
    choice.requiresNone.HeldBy forbidden ∧ HoldsEach Effect.HeldBy choice.effects effects ∧
    HasMembers
      [("number", .int choice.number.toNat), ("text", .string choice.text),
        ("requiresAll", required), ("requiresNone", forbidden),
        ("disabledReason", (choice.disabledReason.map Value.string).getD .null),
        ("effects", effects)] v

/-- A value holds a `Scene`. -/
def Scene.HeldBy (scene : Scene) (v : Value) : Prop :=
  ∃ choices : Value, HoldsEach Choice.HeldBy scene.choices choices ∧
    HasMembers
      [("id", .string scene.id), ("text", .string scene.text), ("isEnd", .bool scene.isEnd),
        ("choices", choices)] v

/-- A value holds a `Story`. -/
def Story.HeldBy (story : Story) (v : Value) : Prop :=
  ∃ scenes : Value, HoldsEach Scene.HeldBy story.scenes scenes ∧
    HasMembers [("startSceneId", .string story.start), ("scenes", scenes)] v

/-- A story is written as `text`: the text is one of those that `Value.IsWrittenAs` has for a value
that holds the story. -/
def Story.IsWrittenAs (story : Story) (text : String) : Prop :=
  ∃ v, story.HeldBy v ∧ v.IsWrittenAs text

/-! ### Reading the values -/

namespace Manuscript

theorem HasMembers.perm {members ordered : List (String × Value)} {v : Value}
    (h : HasMembers members v) (hperm : members.Perm ordered) : HasMembers ordered v := by
  obtain ⟨l, rfl, hl⟩ := h
  exact ⟨l, rfl, hl.trans hperm⟩

/-- An object that `HasMembers` is read with them in the order of their folded keys. -/
theorem HasMembers.foldKeys_eq {members : List (String × Value)} {v : Value}
    (h : HasMembers members v) (keys names : List String) (hkeys : members.map Prod.fst = keys)
    (hnames : keys.map foldKey = names) (hascending : names.Pairwise (· < ·)) :
    v.foldKeys = .object (names.zip (members.map fun member => member.2.foldKeys)) := by
  obtain ⟨l, rfl, hl⟩ := h
  have hfolded : names.zip (members.map fun member => member.2.foldKeys) =
      members.map fun member => (foldKey member.1, member.2.foldKeys) := by
    rw [← hnames, ← hkeys, List.map_map, List.zip_map']
    rfl
  rw [Value.foldKeys, Value.foldMembers_eq_map]
  refine congrArg Value.object (Json.settle_eq_of_perm ?_ ?_)
  · have hlength : names.length = members.length := by rw [← hnames, ← hkeys]; simp
    rwa [List.map_fst_zip (by rw [List.length_map, hlength])]
  · rw [hfolded, List.map_map]
    exact hl.symm.map _

/-- A member under the name of a field is entered with what `read` makes of it. -/
theorem Record.foldlM_cons_of_read {ρ α : Type} (record : Record ρ) (name : String) {v : Value}
    {read : Value → Except ShapeFault α} {set : α → ρ → ρ} {a : α}
    (hfield : record.fields.find? (·.name == name) = some (.of name read set))
    (hread : read v = .ok a) (members : List (String × Value)) (draft : ρ) :
    ((name, v) :: members).foldlM record.enterMember draft =
      members.foldlM record.enterMember (set a draft) := by
  have henter : record.enterMember draft (name, v) = .ok (set a draft) := by
    rw [Record.enterMember, hfield]
    change (set · draft) <$> read v = _
    rw [hread]
    rfl
  rw [List.foldlM_cons, henter]
  rfl

/-- `readNumber` takes the number of a choice. -/
theorem readNumber_toNat (n : UInt32) : readNumber (.int n.toNat) = .ok n := by
  have hlt : (n.toNat : Int).toNat < UInt32.size := n.toNat_lt
  rw [readNumber, dif_pos hlt, if_pos (Int.natCast_nonneg _)]
  rfl

/-- `readOptionalText` gives back a reason, or `null` where there is none. -/
private theorem readOptionalText_getD (reason : Option String) :
    readOptionalText ((reason.map Value.string).getD .null).foldKeys = .ok reason := by
  cases reason <;> rfl

/-- The reader `read` and then `convert` give the thing that a value holds. -/
def Gives {α β : Type} (read : Value → Except ShapeFault β) (convert : β → Except Defect α)
    (thing : α) (v : Value) : Prop :=
  ∃ entry, read v.foldKeys = .ok entry ∧ convert entry = .ok thing

/-- An array is read and converted thing by thing, if `Gives` holds of each. -/
private theorem HoldsEach.exists_entries {α β : Type} {held : α → Value → Prop}
    {read : Value → Except ShapeFault β} {convert : β → Except Defect α} {things : List α}
    {v : Value} (h : HoldsEach held things v)
    (hgives : ∀ thing item, held thing item → Gives read convert thing item) :
    ∃ entries, readList read v.foldKeys = .ok entries ∧ entries.mapM convert = .ok things := by
  obtain ⟨items, rfl, hitems⟩ := h
  rw [Value.foldKeys, Value.foldItems_eq_map, readList]
  induction hitems with
  | nil => exact ⟨[], rfl, rfl⟩
  | cons hthing _ ih =>
    obtain ⟨entry, hread, hconvert⟩ := hgives _ _ hthing
    obtain ⟨entries, hreads, hconverts⟩ := ih
    refine ⟨entry :: entries, ?_, ?_⟩
    · rw [List.map_cons, List.mapM_cons, hread, hreads]
      rfl
    · rw [List.mapM_cons, hconvert, hconverts]
      rfl

end Manuscript

open Manuscript

/-- The flags of a set are read in some order, which `FlagSet.ofList` does not mind. -/
private theorem FlagSet.HeldBy.exists_names {flags : FlagSet} {v : Value} (h : flags.HeldBy v) :
    ∃ names, readList readText v.foldKeys = .ok names ∧ FlagSet.ofList names = flags := by
  obtain ⟨names, rfl, hnames⟩ := h
  have hread : ∀ names : List String,
      ((names.map Value.string).map Value.foldKeys).mapM readText = .ok names := by
    intro names
    induction names with
    | nil => rfl
    | cons name rest ih =>
      rw [List.map_cons, List.map_cons, List.mapM_cons, ih]
      rfl
  refine ⟨names, ?_, FlagSet.ext fun name => FlagSet.mem_ofList.trans (hnames name)⟩
  rw [Value.foldKeys, Value.foldItems_eq_map, readList, hread]

/-- A value that holds an `Effect` is read as the effect. -/
private theorem Effect.HeldBy.gives {effect : Effect} {v : Value} (h : effect.HeldBy v) :
    Gives effectRecord.read EffectEntry.toEffect effect v := by
  have hfold := HasMembers.foldKeys_eq h ["type", "value"] ["type", "value"] rfl (by decide)
    (by decide)
  refine ⟨⟨effect.kind.name, effect.value⟩, ?_, ?_⟩
  · rw [hfold]
    rfl
  · rw [EffectEntry.toEffect, Effect.Kind.ofTag?_name]

/-- A value that holds a `Choice` is read as the choice. -/
private theorem Choice.HeldBy.gives {choice : Choice} {v : Value} (h : choice.HeldBy v) :
    Gives choiceRecord.read ChoiceEntry.toChoice choice v := by
  obtain ⟨required, forbidden, effects, hrequired, hforbidden, heffects, hmembers⟩ := h
  obtain ⟨all, hall, hallSet⟩ := hrequired.exists_names
  obtain ⟨none, hnone, hnoneSet⟩ := hforbidden.exists_names
  obtain ⟨entries, hread, hconvert⟩ := heffects.exists_entries fun _ _ => Effect.HeldBy.gives
  -- the order of the folded keys is the one in which the members are read
  have hsorted : HasMembers
      [("disabledReason", (choice.disabledReason.map Value.string).getD .null),
        ("effects", effects), ("number", .int choice.number.toNat), ("requiresAll", required),
        ("requiresNone", forbidden), ("text", .string choice.text)] v := by
    refine hmembers.perm ((@List.perm_append_comm _ [_, _, _, _] [_, _]).trans ?_)
    exact (((@List.perm_append_comm _ [_] [_, _]).cons _).cons _).cons _
  have hfold := hsorted.foldKeys_eq
    ["disabledReason", "effects", "number", "requiresAll", "requiresNone", "text"]
    ["disabledreason", "effects", "number", "requiresall", "requiresnone", "text"] rfl
    (by decide) (by decide)
  refine ⟨⟨choice.number, choice.text, all, none, choice.disabledReason, entries⟩, ?_, ?_⟩
  · rw [hfold]
    change choiceRecord.read (.object
      [("disabledreason", ((choice.disabledReason.map Value.string).getD .null).foldKeys),
        ("effects", effects.foldKeys), ("number", .int choice.number.toNat),
        ("requiresall", required.foldKeys), ("requiresnone", forbidden.foldKeys),
        ("text", .string choice.text)]) = _
    rw [Record.read,
      choiceRecord.foldlM_cons_of_read "disabledreason" rfl (readOptionalText_getD _),
      choiceRecord.foldlM_cons_of_read "effects" rfl hread,
      choiceRecord.foldlM_cons_of_read "number" rfl (readNumber_toNat _),
      choiceRecord.foldlM_cons_of_read "requiresall" rfl hall,
      choiceRecord.foldlM_cons_of_read "requiresnone" rfl hnone]
    rfl
  · rw [ChoiceEntry.toChoice, hconvert, hallSet, hnoneSet]
    rfl

/-- A value that `HasMembers` under the keys of a scene is read as the scene, however its choices
are held. -/
theorem Scene.gives_of_hasMembers {scene : Scene} {held : Choice → Value → Prop}
    {choices v : Value} (hchoices : HoldsEach held scene.choices choices)
    (hgives : ∀ choice item, held choice item →
      Gives choiceRecord.read ChoiceEntry.toChoice choice item)
    (hmembers : HasMembers
      [("id", .string scene.id), ("text", .string scene.text), ("isEnd", .bool scene.isEnd),
        ("choices", choices)] v) :
    Gives sceneRecord.read SceneEntry.toScene scene v := by
  obtain ⟨entries, hread, hconvert⟩ := hchoices.exists_entries hgives
  have hsorted : HasMembers
      [("choices", choices), ("id", .string scene.id), ("isEnd", .bool scene.isEnd),
        ("text", .string scene.text)] v := by
    refine hmembers.perm ((@List.perm_append_comm _ [_, _, _] [_]).trans ?_)
    exact ((List.Perm.swap _ _ _).cons _).cons _
  have hfold := hsorted.foldKeys_eq ["choices", "id", "isEnd", "text"]
    ["choices", "id", "isend", "text"] rfl (by decide) (by decide)
  refine ⟨⟨scene.id, scene.text, scene.isEnd, entries⟩, ?_, ?_⟩
  · rw [hfold]
    change sceneRecord.read (.object (("choices", choices.foldKeys) :: _)) = _
    rw [Record.read, sceneRecord.foldlM_cons_of_read "choices" rfl hread]
    rfl
  · rw [SceneEntry.toScene, hconvert]
    rfl

/-- A value that holds a `Scene` is read as the scene. -/
private theorem Scene.HeldBy.gives {scene : Scene} {v : Value} (h : scene.HeldBy v) :
    Gives sceneRecord.read SceneEntry.toScene scene v := by
  obtain ⟨choices, hchoices, hmembers⟩ := h
  exact gives_of_hasMembers hchoices (fun _ _ => Choice.HeldBy.gives) hmembers

/-- A value that `HasMembers` under the keys of a story is read as the story, however its scenes are
held. -/
theorem Story.ofValue_eq_of_hasMembers {story : Story} {held : Scene → Value → Prop}
    {scenes v : Value} (hscenes : HoldsEach held story.scenes scenes)
    (hgives : ∀ scene item, held scene item →
      Gives sceneRecord.read SceneEntry.toScene scene item)
    (hmembers : HasMembers [("startSceneId", .string story.start), ("scenes", scenes)] v) :
    Story.ofValue v = .ok story := by
  obtain ⟨entries, hread, hconvert⟩ := hscenes.exists_entries hgives
  have hfold := (hmembers.perm (.swap _ _ _)).foldKeys_eq ["scenes", "startSceneId"]
    ["scenes", "startsceneid"] rfl (by decide) (by decide)
  have hvalue : Manuscript.ofValue v = .ok ⟨story.start, entries⟩ := by
    rw [Manuscript.ofValue, hfold]
    change storyRecord.read (.object (("scenes", scenes.foldKeys) :: _)) = _
    rw [Record.read, storyRecord.foldlM_cons_of_read "scenes" rfl hread]
    rfl
  rw [Story.ofValue, hvalue]
  change liftError .invalid (toStory ⟨story.start, entries⟩) = _
  rw [toStory, hconvert]
  rfl

/-- `Story.ofValue` reads the story that a value holds. -/
theorem Story.HeldBy.ofValue_eq {story : Story} {v : Value} (h : story.HeldBy v) :
    Story.ofValue v = .ok story := by
  obtain ⟨scenes, hscenes, hmembers⟩ := h
  exact ofValue_eq_of_hasMembers hscenes (fun _ _ => Scene.HeldBy.gives) hmembers

/-! ### Writing the values -/

namespace Manuscript

/-- Things that can be written one by one can be written as an array. -/
private theorem exists_holdsEach {α : Type} {held : α → Value → Prop}
    (h : ∀ thing, ∃ v, held thing v ∧ v.Writable) (things : List α) :
    ∃ v, HoldsEach held things v ∧ v.Writable := by
  have hitems : ∃ items, List.Forall₂ held things items ∧ ∀ v ∈ items, v.Writable := by
    induction things with
    | nil => exact ⟨[], .nil, List.forall_mem_nil _⟩
    | cons thing rest ih =>
      obtain ⟨v, hv, hwritable⟩ := h thing
      obtain ⟨items, hitems, hwritables⟩ := ih
      exact ⟨v :: items, .cons hv hitems, List.forall_mem_cons.mpr ⟨hwritable, hwritables⟩⟩
  obtain ⟨items, hitems, hwritable⟩ := hitems
  exact ⟨.array items, ⟨items, rfl, hitems⟩, Value.writable_array hwritable⟩

end Manuscript

/-- A set of flags can be written. -/
theorem FlagSet.exists_heldBy (flags : FlagSet) : ∃ v, flags.HeldBy v ∧ v.Writable := by
  refine ⟨_, ⟨flags.names, rfl, fun name => Iff.rfl⟩, Value.writable_array ?_⟩
  rintro v hv
  obtain ⟨name, _, rfl⟩ := List.mem_map.mp hv
  exact Value.writable_string name

/-- An effect can be written. -/
theorem Effect.exists_heldBy (effect : Effect) : ∃ v, effect.HeldBy v ∧ v.Writable := by
  refine ⟨_, ⟨_, rfl, .rfl⟩, Value.writable_object ?_⟩
  simp only [List.forall_mem_cons]
  exact ⟨Value.writable_string _, Value.writable_string _, List.forall_mem_nil _⟩

/-- A choice can be written. -/
theorem Choice.exists_heldBy (choice : Choice) : ∃ v, choice.HeldBy v ∧ v.Writable := by
  obtain ⟨required, hrequired, hwritableRequired⟩ := choice.requiresAll.exists_heldBy
  obtain ⟨forbidden, hforbidden, hwritableForbidden⟩ := choice.requiresNone.exists_heldBy
  obtain ⟨effects, heffects, hwritableEffects⟩ :=
    exists_holdsEach Effect.exists_heldBy choice.effects
  have hnumber : (Value.int choice.number.toNat).Writable := by
    refine ⟨_, .int ?_⟩
    have hlt := choice.number.toNat_lt
    have hmax : Int64.maxValue.toInt = 2 ^ 63 - 1 := by decide
    omega
  have hreason : ((choice.disabledReason.map Value.string).getD .null).Writable := by
    cases choice.disabledReason with
    | none => exact ⟨_, .null⟩
    | some reason => exact Value.writable_string reason
  refine ⟨_, ⟨required, forbidden, effects, hrequired, hforbidden, heffects, _, rfl, .rfl⟩,
    Value.writable_object ?_⟩
  simp only [List.forall_mem_cons]
  exact ⟨hnumber, Value.writable_string _, hwritableRequired, hwritableForbidden, hreason,
    hwritableEffects, List.forall_mem_nil _⟩

/-- A scene can be written. -/
theorem Scene.exists_heldBy (scene : Scene) : ∃ v, scene.HeldBy v ∧ v.Writable := by
  obtain ⟨choices, hchoices, hwritable⟩ := exists_holdsEach Choice.exists_heldBy scene.choices
  refine ⟨_, ⟨choices, hchoices, _, rfl, .rfl⟩, Value.writable_object ?_⟩
  simp only [List.forall_mem_cons]
  exact ⟨Value.writable_string _, Value.writable_string _, ⟨_, .bool _⟩, hwritable,
    List.forall_mem_nil _⟩

/-- A story has a value that is `Value.Writable`. -/
theorem Story.exists_heldBy (story : Story) : ∃ v, story.HeldBy v ∧ v.Writable := by
  obtain ⟨scenes, hscenes, hwritable⟩ := exists_holdsEach Scene.exists_heldBy story.scenes
  refine ⟨_, ⟨scenes, hscenes, _, rfl, .rfl⟩, Value.writable_object ?_⟩
  simp only [List.forall_mem_cons]
  exact ⟨Value.writable_string _, hwritable, List.forall_mem_nil _⟩

/-- A story can be written as a story file, and `Story.ofText` loads it as it was from each file
that it is written as. -/
theorem Story.ofText_of_isWrittenAs (story : Story) :
    (∃ text, story.IsWrittenAs text) ∧
      ∀ text, story.IsWrittenAs text → Story.ofText text = .ok story := by
  constructor
  · obtain ⟨v, hheld, hwritable⟩ := story.exists_heldBy
    obtain ⟨text, htext⟩ := hwritable.exists_isWrittenAs
    exact ⟨text, v, hheld, htext⟩
  · rintro text ⟨v, hheld, htext⟩
    rw [Story.ofText_eq_ofValue htext, hheld.ofValue_eq]

/-- A story of one scene, with an escape, comments and a trailing comma. -/
theorem Story.ofText_of_comments :
    Story.ofText ("/* one scene */\x7b\"startSceneId\":\"a\\\"\",//\n\"scenes\": " ++
        "[\x7b\"id\":\"a\\\"\",\"text\":\"\",\"isEnd\":true,\"choices\":[]\x7d],\x7d") =
      .ok ⟨"a\"", [⟨"a\"", "", true, []⟩]⟩ := by
  have hheld : Story.HeldBy ⟨"a\"", [⟨"a\"", "", true, []⟩]⟩
      (.object [("startSceneId", .string "a\""), ("scenes", .array [.object
        [("id", .string "a\""), ("text", .string ""), ("isEnd", .bool true),
          ("choices", .array [])]])]) :=
    ⟨_, ⟨_, rfl, .cons ⟨_, ⟨_, rfl, .nil⟩, _, rfl, .rfl⟩ .nil⟩, _, rfl, .rfl⟩
  have hscene : (Part.value (.object [("id", .string "a\""), ("text", .string ""),
      ("isEnd", .bool true), ("choices", .array [])])).Written _ :=
    .object <| .member (.string _) <| .member (.string _) <| .member (.bool true) <|
      .lastMember (.array .noItem)
  have hwritten : (Part.value (.object [("startSceneId", .string "a\""),
      ("scenes", .array [_])])).Written _ :=
    .object <| .member (.string _) <| .member (.array (.lastItem hscene)) .noMember
  have hopening : Gap "/* one scene */".toList :=
    .block " one scene ".toList (by decide +kernel) .nil
  have hline : Gap "//\n".toList := .line [] (List.forall_mem_nil _) rfl .nil
  have hspace : Gap [' '] := .space rfl .nil
  have hspells : Spells _ _ :=
    .cons hopening (.mark '\x7b' rfl) <| .cons .nil (.string "startSceneId") <|
      .cons .nil (.mark ':' rfl) <| .cons .nil (.string "a\"") <| .cons .nil (.mark ',' rfl) <|
      .cons hline (.string "scenes") <| .cons .nil (.mark ':' rfl) <|
      .cons hspace (.mark '[' rfl) <| .cons .nil (.mark '\x7b' rfl) <|
      .cons .nil (.string "id") <| .cons .nil (.mark ':' rfl) <| .cons .nil (.string "a\"") <|
      .cons .nil (.mark ',' rfl) <| .cons .nil (.string "text") <| .cons .nil (.mark ':' rfl) <|
      .cons .nil (.string "") <| .cons .nil (.mark ',' rfl) <| .cons .nil (.string "isEnd") <|
      .cons .nil (.mark ':' rfl) <|
      .cons .nil (.name (List.mem_cons_of_mem _ List.mem_cons_self)) <|
      .cons .nil (.mark ',' rfl) <|
      .cons .nil (.string "choices") <| .cons .nil (.mark ':' rfl) <|
      .cons .nil (.mark '[' rfl) <| .cons .nil (.mark ']' rfl) <| .cons .nil (.mark '\x7d' rfl) <|
      .cons .nil (.mark ']' rfl) <| .cons .nil (.mark ',' rfl) <| .cons .nil (.mark '\x7d' rfl) <|
      .nil .nil
  refine (Story.ofText_of_isWrittenAs _).2 _ ⟨_, hheld, _, hwritten, ?_⟩
  refine Eq.mp (congrArg (Spells _) ?_) hspells
  decide +kernel

end Gamebook
