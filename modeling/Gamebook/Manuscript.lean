import Gamebook.Json.Key
import Gamebook.Manuscript.Record

/-!
# Manuscripts

A manuscript is a story as its file holds it: four kinds of records with their fields, and
effects whose kinds are still names. Reading a manuscript says only that the file has the form
of a story. `Manuscript.toStory` looks at the names of the effects, the first unknown one in the
order of the manuscript being reported.

* `Effect.Kind.ofTag?_name`: a kind is found under its own name.
-/

namespace Gamebook

open Json (Value)

/-- An `Effect` as it is written. -/
structure Manuscript.EffectEntry where
  tag : String
  value : String
deriving DecidableEq

/-- A `Choice` as it is written. -/
structure Manuscript.ChoiceEntry where
  number : UInt32
  text : String
  requiresAll : List String
  requiresNone : List String
  disabledReason : Option String
  effects : List Manuscript.EffectEntry
deriving DecidableEq

/-- A `Scene` as it is written. -/
structure Manuscript.SceneEntry where
  id : String
  text : String
  isEnd : Bool
  choices : List Manuscript.ChoiceEntry
deriving DecidableEq

/-- A `Story` as it is written. -/
structure Manuscript where
  start : String
  scenes : List Manuscript.SceneEntry
deriving DecidableEq

namespace Manuscript

/-! ### The four records -/

/-- The form of an `EffectEntry`. -/
def effectRecord : Record EffectEntry where
  title := "struct EffectDocument"
  required := .of "type" readText fun tag draft => { draft with tag }
  others := [.of "value" readText fun value draft => { draft with value }]
  blank := ⟨"", ""⟩

/-- The form of a `ChoiceEntry`. -/
def choiceRecord : Record ChoiceEntry where
  title := "struct ChoiceDocument"
  required := .of "number" readNumber fun number draft => { draft with number }
  others :=
    [.of "text" readText fun text draft => { draft with text },
      .of "requiresall" (readList readText) fun names draft => { draft with requiresAll := names },
      .of "requiresnone" (readList readText) fun names draft =>
        { draft with requiresNone := names },
      .of "disabledreason" readOptionalText fun reason draft =>
        { draft with disabledReason := reason },
      .of "effects" (readList effectRecord.read) fun effects draft => { draft with effects }]
  blank := ⟨0, "", [], [], none, []⟩

/-- The form of a `SceneEntry`. -/
def sceneRecord : Record SceneEntry where
  title := "struct SceneDocument"
  required := .of "id" readText fun id draft => { draft with id }
  others :=
    [.of "text" readText fun text draft => { draft with text },
      .of "isend" readBool fun isEnd draft => { draft with isEnd },
      .of "choices" (readList choiceRecord.read) fun choices draft => { draft with choices }]
  blank := ⟨"", "", false, []⟩

/-- The form of a `Manuscript`. -/
def storyRecord : Record Manuscript where
  title := "struct StoryDocument"
  required := .of "startsceneid" readText fun start draft => { draft with start }
  others := [.of "scenes" (readList sceneRecord.read) fun scenes draft => { draft with scenes }]
  blank := ⟨"", []⟩

/-- Reads the manuscript that a value holds. Its keys count in their folded forms, as
`Json.Value.foldKeys` makes them. -/
def ofValue (value : Value) : Except ShapeFault Manuscript := storyRecord.read value.foldKeys

end Manuscript

/-! ### The names of effects -/

/-- Whether two texts differ at most in the case of the letters of ASCII. -/
def sameIgnoringCase (a b : String) : Bool :=
  a.toList.map Char.toLower == b.toList.map Char.toLower

/-- The `Effect.Kind` that a name stands for. -/
def Effect.Kind.ofTag? (tag : String) : Option Effect.Kind :=
  [Effect.Kind.setFlag, .clearFlag, .gotoScene].find? (sameIgnoringCase tag ·.name)

/-- A kind is found by `Effect.Kind.ofTag?` under its own `Effect.Kind.name`. -/
theorem Effect.Kind.ofTag?_name (kind : Effect.Kind) :
    Effect.Kind.ofTag? kind.name = some kind := by
  cases kind <;> decide

namespace Manuscript

/-- The `Effect` that an entry stands for, if its name is that of a kind. -/
def EffectEntry.toEffect (entry : EffectEntry) : Except Defect Effect :=
  match Effect.Kind.ofTag? entry.tag with
  | some kind => .ok ⟨kind, entry.value⟩
  | none => .error (.unknownEffect entry.tag)

/-- The `Choice` that an entry stands for. -/
def ChoiceEntry.toChoice (entry : ChoiceEntry) : Except Defect Choice := do
  let effects ← entry.effects.mapM EffectEntry.toEffect
  return {
    number := entry.number
    text := entry.text
    requiresAll := .ofList entry.requiresAll
    requiresNone := .ofList entry.requiresNone
    disabledReason := entry.disabledReason
    effects }

/-- The `Scene` that an entry stands for. -/
def SceneEntry.toScene (entry : SceneEntry) : Except Defect Scene := do
  let choices ← entry.choices.mapM ChoiceEntry.toChoice
  return { id := entry.id, text := entry.text, isEnd := entry.isEnd, choices }

/-- The `Story` that a manuscript holds. -/
def toStory (manuscript : Manuscript) : Except Defect Story := do
  let scenes ← manuscript.scenes.mapM SceneEntry.toScene
  return { start := manuscript.start, scenes }

end Manuscript

end Gamebook
