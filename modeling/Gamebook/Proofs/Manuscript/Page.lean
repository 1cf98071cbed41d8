import Gamebook.Page.Value
import Gamebook.Proofs.Manuscript.Written
import Gamebook.Proofs.Play.Page

/-!
# Pages read as scenes

A page is written under the keys of a scene, and its entries under those of choices. So a page can
stand in a story file in the place of a scene. What it says on top, whether an entry can be taken
and why not, is under keys that no choice has, and what it lacks are fields that need not be given.
The scene that is read has the choices of the page in their order, without any requirements and
effects.

* `Entry.gives_value`, `Page.gives_value`: what is read of an entry and of a page.
* `Scene.page_read_as_scene`: the story whose one scene is a page.
-/

namespace Gamebook

open Json (Value)
open Manuscript

/-- What is left of a choice when its `number` and its `text` are kept. -/
def Choice.bare (choice : Choice) : Choice :=
  ⟨choice.number, choice.text, .empty, .empty, none, []⟩

/-- The `Choice` that an entry is read as. -/
def Entry.choice (entry : Entry) : Choice := ⟨entry.number, entry.text, .empty, .empty, none, []⟩

/-- The `Scene` that a page is read as. -/
def Page.scene (page : Page) : Scene :=
  ⟨page.id, page.text, page.isEnd, page.entries.map Entry.choice⟩

/-- A member under a name that no field has is passed over. -/
private theorem Manuscript.Record.foldlM_cons_of_notMem {ρ : Type} (record : Record ρ)
    (name : String) (h : name ∉ record.names) (v : Value) (members : List (String × Value))
    (draft : ρ) :
    ((name, v) :: members).foldlM record.enterMember draft =
      members.foldlM record.enterMember draft := by
  rw [List.foldlM_cons, Record.enterMember_of_notMem h]
  rfl

/-- The `value` of an entry is read as its `choice`, and its availability is passed over. -/
private theorem Entry.gives_value (entry : Entry) :
    Gives choiceRecord.read ChoiceEntry.toChoice entry.choice entry.value := by
  have hmembers : HasMembers
      [("enabled", .bool entry.availability.isAvailable),
        ("reason", .ofOption entry.availability.reason?),
        ("number", .int entry.number.toNat), ("text", .string entry.text)] entry.value :=
    ⟨_, rfl, @List.perm_append_comm _ [_, _] [_, _]⟩
  have hfold := (hmembers.perm ((List.Perm.swap _ _ _).cons _)).foldKeys_eq
    ["enabled", "number", "reason", "text"] ["enabled", "number", "reason", "text"] rfl
    (by decide) (by decide)
  refine ⟨⟨entry.number, entry.text, [], [], none, []⟩, ?_, rfl⟩
  rw [hfold]
  change choiceRecord.read (.object
    [("enabled", _), ("number", .int entry.number.toNat), ("reason", _),
      ("text", .string entry.text)]) = _
  rw [Record.read, choiceRecord.foldlM_cons_of_notMem "enabled" (by decide),
    choiceRecord.foldlM_cons_of_read "number" rfl (readNumber_toNat _),
    choiceRecord.foldlM_cons_of_notMem "reason" (by decide)]
  rfl

/-- The `value` of a page is read as its `scene`. -/
private theorem Page.gives_value (page : Page) :
    Gives sceneRecord.read SceneEntry.toScene page.scene page.value := by
  have hentries : HoldsEach (fun choice v => ∃ entry : Entry, entry.choice = choice ∧
      entry.value = v) page.scene.choices (.array (page.entries.map Entry.value)) := by
    refine ⟨_, rfl, ?_⟩
    rw [scene, List.forall₂_map_left_iff, List.forall₂_map_right_iff, List.forall₂_same]
    exact fun entry _ => ⟨entry, rfl, rfl⟩
  refine Scene.gives_of_hasMembers hentries ?_ ⟨_, rfl, .rfl⟩
  rintro _ _ ⟨entry, rfl, rfl⟩
  exact entry.gives_value

/-- A story whose one scene is a page is read with the `scene` of the page. -/
private theorem Story.ofValue_page (start : String) (page : Page) :
    Story.ofValue (.object [("startSceneId", .string start), ("scenes", .array [page.value])]) =
      .ok ⟨start, [page.scene]⟩ := by
  have hscenes : HoldsEach (fun scene v => scene = page.scene ∧ v = page.value) [page.scene]
      (.array [page.value]) := ⟨_, rfl, .cons ⟨rfl, rfl⟩ .nil⟩
  refine Story.ofValue_eq_of_hasMembers hscenes ?_ ⟨_, rfl, .rfl⟩
  rintro _ _ ⟨rfl, rfl⟩
  exact page.gives_value

example : Story.ofValue (.object [("startSceneId", .string "a"), ("scenes", .array
    [(Page.mk "a" "Dust." false [⟨7, "Look", .unavailable (some "It is dark.")⟩]).value])]) =
      .ok ⟨"a", [⟨"a", "Dust.", false, [⟨7, "Look", .empty, .empty, none, []⟩]⟩]⟩ := by
  decide +kernel

/-- The page of any scene for any player, as the only scene of a story with any start, is read as
the scene with its choices in order, of which the numbers and the texts are left. -/
theorem Scene.page_read_as_scene (scene : Scene) (player : Player) (start : String) :
    ∃ ordered, scene.InOrder ordered ∧
      Story.ofValue (.object [("startSceneId", .string start),
          ("scenes", .array [(scene.page player).value])]) =
        .ok ⟨start, [⟨scene.id, scene.text, scene.isEnd, ordered.map Choice.bare⟩]⟩ := by
  refine ⟨_, scene.inOrder_mergeSort, ?_⟩
  rw [Story.ofValue_page, Page.scene, Page.entries_eq_map, List.map_map]
  rfl

end Gamebook
