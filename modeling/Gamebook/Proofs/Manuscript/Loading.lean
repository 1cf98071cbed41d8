import Gamebook.Proofs.Manuscript.Contents
import Gamebook.Proofs.Manuscript.Naming

/-!
# Loading

What is read from a value and from a text, with the form of a story, the contents of a value and
the names of effects put together. The stages of loading follow each other: a text is refused
before its value is looked at, and a value is refused before the names of its effects are. So an
unknown name is only reported from a file that is sound in all else.

* `Story.ofValue_follows_form`: the values that are refused, and the story in the others.
* `Story.ofText_reports_first_unknown`: the errors of a story file.
-/

namespace Gamebook

open Json (Value)
open Manuscript

/-! ### Values -/

section Values

variable {v : Value}

/-- From a value with `Form.story` the story is read that `storyIn` stands for. -/
private theorem Story.ofValue_eq_of_form (h : Form.story v.foldKeys) :
    Story.ofValue v = liftError .invalid (storyIn v.foldKeys).toStory := by
  have hread : Manuscript.ofValue v = .ok (storyIn v.foldKeys) := ofValue_eq_ok_iff.mpr ⟨h, rfl⟩
  rw [Story.ofValue, hread]
  rfl

/-- No story is read from a value without `Form.story`. -/
private theorem Story.exists_ofValue_eq_error_shape (h : ¬Form.story v.foldKeys) :
    ∃ fault, Story.ofValue v = .error (.shape fault) := by
  cases hread : Manuscript.ofValue v with
  | error fault =>
    refine ⟨fault, ?_⟩
    rw [Story.ofValue, hread]
    rfl
  | ok manuscript => exact absurd (ofValue_eq_ok_iff.mp hread).1 h

/-- Only the names of effects can be wrong in a value with `Form.story`. -/
private theorem Story.ofValue_eq_error_iff_of_form (h : Form.story v.foldKeys) {error : Error} :
    Story.ofValue v = .error error ↔
      ∃ tag, IsFirstUnknown (storyIn v.foldKeys).effects tag ∧
        error = .invalid (.unknownEffect tag) := by
  have hlift : Story.ofValue v = .error error ↔
      ∃ defect, (storyIn v.foldKeys).toStory = .error defect ∧ error = .invalid defect := by
    rw [Story.ofValue_eq_of_form h]
    cases (storyIn v.foldKeys).toStory with
    | error defect => simp [eq_comm]
    | ok story => simp
  rw [hlift]
  simp only [toStory_eq_error_iff]
  constructor
  · rintro ⟨_, ⟨tag, htag, rfl⟩, rfl⟩
    exact ⟨tag, htag, rfl⟩
  · rintro ⟨tag, htag, rfl⟩
    exact ⟨_, ⟨tag, htag, rfl⟩, rfl⟩

/-- A value with `Form.story` is refused when `IsName` fails of some tag in it. -/
private theorem Story.exists_ofValue_eq_error_iff (h : Form.story v.foldKeys) :
    (∃ error, Story.ofValue v = .error error) ↔
      ∃ entry ∈ (storyIn v.foldKeys).effects, ¬IsName entry.tag := by
  rw [← exists_isFirstUnknown_iff]
  simp only [Story.ofValue_eq_error_iff_of_form h]
  exact ⟨fun ⟨_, tag, htag, _⟩ => ⟨tag, htag⟩, fun ⟨tag, htag⟩ => ⟨_, tag, htag, rfl⟩⟩

/-- Where `IsName` holds of each tag, the story is read that `storyIn` stands for. -/
private theorem Story.exists_ofValue_eq_ok (h : Form.story v.foldKeys)
    (hnames : ∀ entry ∈ (storyIn v.foldKeys).effects, IsName entry.tag) :
    ∃ story, Story.ofValue v = .ok story ∧ (storyIn v.foldKeys).StandsFor story := by
  obtain ⟨story, hstory, hstands⟩ := exists_standsFor hnames
  refine ⟨story, ?_, hstands⟩
  rw [Story.ofValue_eq_of_form h, hstory]
  rfl

end Values

/-- The values that `Story.ofValue` refuses for their shape are those without `Form.story`. A value
with the form holds the story that is read from it, if its effects have known names. -/
theorem Story.ofValue_follows_form (v : Value) :
    ((∃ fault, Story.ofValue v = .error (.shape fault)) ↔ ¬Form.story v.foldKeys) ∧
      (Form.story v.foldKeys → (∀ entry ∈ (storyIn v.foldKeys).effects, IsName entry.tag) →
        ∃ story, Story.ofValue v = .ok story ∧ (storyIn v.foldKeys).StandsFor story) := by
  refine ⟨⟨?_, Story.exists_ofValue_eq_error_shape⟩, Story.exists_ofValue_eq_ok⟩
  rintro ⟨fault, hfault⟩ hform
  obtain ⟨tag, -, htag⟩ := (Story.ofValue_eq_error_iff_of_form hform).mp hfault
  exact absurd htag nofun

/-- A story in which a scene and an effect are arrays, with fields that are missing and a member
that means nothing. -/
def terseValue : Value :=
  .object
    [("StartSceneId", .string "a"), ("mood", .null),
      ("scenes", .array
        [.array [.string "a"],
          .object
            [("id", .string "b"),
              ("choices", .array
                [.object
                  [("number", .int 7),
                    ("effects", .array [.array [.string "gotoscene", .string "a"]])]])]])]

theorem Story.ofValue_terseValue :
    Form.story terseValue.foldKeys ∧
      (∀ entry ∈ (storyIn terseValue.foldKeys).effects, IsName entry.tag) ∧
      ∃ story, Story.ofValue terseValue = .ok story ∧
        (storyIn terseValue.foldKeys).StandsFor story := by
  have hread : Manuscript.ofValue terseValue =
      .ok ⟨"a", [⟨"a", "", false, []⟩,
        ⟨"b", "", false, [⟨7, "", [], [], none, [⟨"gotoscene", "a"⟩]⟩]⟩]⟩ := by decide +kernel
  obtain ⟨hform, hin⟩ := ofValue_eq_ok_iff.mp hread
  have hnames : ∀ entry ∈ (storyIn terseValue.foldKeys).effects, IsName entry.tag := by
    rw [← hin]
    intro entry hentry
    rw [List.mem_singleton.mp hentry]
    exact ⟨.gotoScene, sameIgnoringCase_iff.mp (by decide)⟩
  exact ⟨hform, hnames, (Story.ofValue_follows_form terseValue).2 hform hnames⟩

/-! ### Texts -/

/-- An error comes from the text, from the form of its value or, if that is `Form.story`, from the
name of an effect. -/
private theorem Story.error_of_ofText {text : String} {error : Error}
    (h : Story.ofText text = .error error) :
    error = .grammar ∨ (∃ fault, error = .literal fault) ∨ (∃ fault, error = .shape fault) ∨
      ∃ v : Value, v.IsIn text ∧ Form.story v.foldKeys ∧
        ∃ tag, error = .invalid (.unknownEffect tag) := by
  rcases Story.ofText_cases text with hgrammar | ⟨fault, hliteral⟩ | ⟨v, hin⟩
  · exact .inl (Except.error.inj (h.symm.trans hgrammar))
  · exact .inr (.inl ⟨fault, Except.error.inj (h.symm.trans hliteral)⟩)
  · rw [hin.ofText_eq] at h
    by_cases hform : Form.story v.foldKeys
    · obtain ⟨tag, -, htag⟩ := (Story.ofValue_eq_error_iff_of_form hform).mp h
      exact .inr (.inr (.inr ⟨v, hin, hform, tag, htag⟩))
    · obtain ⟨fault, hfault⟩ := Story.exists_ofValue_eq_error_shape hform
      exact .inr (.inr (.inl ⟨fault, Except.error.inj (h.symm.trans hfault)⟩))

/-- `Story.ofText` refuses a story file for its text, for its form or for the name of an effect. The
name is the first one that is unknown, and it is reported only if the file has `Form.story`. With
known names the story is read, whether it can be played or not. -/
theorem Story.ofText_reports_first_unknown (text : String) :
    (∀ error, Story.ofText text = .error error →
      error = .grammar ∨ (∃ fault, error = .literal fault) ∨ (∃ fault, error = .shape fault) ∨
        ∃ tag, error = .invalid (.unknownEffect tag)) ∧
    (∀ tag, Story.ofText text = .error (.invalid (.unknownEffect tag)) →
      ∃ v : Value, v.IsIn text ∧ Form.story v.foldKeys) ∧
    ∀ v : Value, v.IsIn text → Form.story v.foldKeys →
      ((∃ error, Story.ofText text = .error error) ↔
        ∃ entry ∈ (storyIn v.foldKeys).effects, ¬IsName entry.tag) ∧
      (∀ error, Story.ofText text = .error error ↔
        ∃ tag, IsFirstUnknown (storyIn v.foldKeys).effects tag ∧
          error = .invalid (.unknownEffect tag)) ∧
      ((∀ entry ∈ (storyIn v.foldKeys).effects, IsName entry.tag) →
        ∃ story, Story.ofText text = .ok story ∧ (storyIn v.foldKeys).StandsFor story) := by
  refine ⟨?_, ?_, ?_⟩
  · intro error herror
    rcases Story.error_of_ofText herror with hgrammar | hliteral | hshape | ⟨v, -, -, htag⟩
    · exact .inl hgrammar
    · exact .inr (.inl hliteral)
    · exact .inr (.inr (.inl hshape))
    · exact .inr (.inr (.inr htag))
  · intro tag htag
    rcases Story.error_of_ofText htag with h | ⟨fault, h⟩ | ⟨fault, h⟩ | ⟨v, hin, hform, -⟩
    · exact absurd h nofun
    · exact absurd h nofun
    · exact absurd h nofun
    · exact ⟨v, hin, hform⟩
  · intro v hin hform
    rw [hin.ofText_eq]
    exact ⟨Story.exists_ofValue_eq_error_iff hform,
      fun error => Story.ofValue_eq_error_iff_of_form hform, Story.exists_ofValue_eq_ok hform⟩

/-- A story file with two effects that have unknown names, after one with a known name. -/
def teleportText : String :=
  "\x7bstartSceneId: 'a', scenes: [['a', '', false, [[1, '', [], [], null, " ++
    "[['SETFLAG', ' '], ['Teleport', 'b'], ['Fly']]]]]]\x7d"

theorem Story.ofText_teleportText :
    Story.ofText teleportText = .error (.invalid (.unknownEffect "Teleport")) ∧
      ∃ v : Value, v.IsIn teleportText ∧ Form.story v.foldKeys ∧
        IsFirstUnknown (storyIn v.foldKeys).effects "Teleport" ∧
        ∃ entry ∈ (storyIn v.foldKeys).effects, ¬IsName entry.tag := by
  have hread : Story.ofText teleportText = .error (.invalid (.unknownEffect "Teleport")) := by
    decide +kernel
  obtain ⟨-, hform, hnames⟩ := Story.ofText_reports_first_unknown teleportText
  obtain ⟨v, hin, hv⟩ := hform "Teleport" hread
  obtain ⟨hfails, hfirst, -⟩ := hnames v hin hv
  obtain ⟨tag, htag, heq⟩ := (hfirst _).mp hread
  cases heq
  exact ⟨hread, v, hin, hv, htag, hfails.mp ⟨_, hread⟩⟩

end Gamebook
