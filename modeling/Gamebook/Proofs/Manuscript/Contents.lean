import Gamebook.Proofs.Book.Lookup
import Gamebook.Proofs.Manuscript.Alike
import Gamebook.Proofs.Manuscript.Form

/-!
# The contents of a story

What a value of the form of a story holds, said field by field: the value of a field stands under
its name in an object or at its place in an array, and where it is missing there is a default.
Reading goes through the members in their order and enters them one after the other. A record
holds in the end what its fields gave, since no field is given twice and entering one leaves the
others alone (`Record.Slot`).

* `Place.part?` is what a record gives for a field, and `storyIn` the manuscript in a value.
* `ofValue_eq_ok_iff`: a value is read as the manuscript in it, if it has the form of a story.
-/

namespace Gamebook

open Json (Value)

/-! ### Values with folded keys -/

/-- A value that `Value.foldKeys` gave. -/
private def Json.Value.Folded (v : Value) : Prop := ∃ w : Value, w.foldKeys = v

namespace Json.Value.Folded

variable {v : Value}

/-- No key is given twice in an object that is `Folded`. -/
private theorem nodup_keys {members : List (String × Value)} (h : (object members).Folded) :
    (members.map Prod.fst).Nodup := by
  obtain ⟨w, hw⟩ := h
  cases w with
  | object unfolded =>
    rw [foldKeys, object.injEq] at hw
    rw [← hw]
    exact nodup_of_pairwise_keys (pairwise_settle _)
  | null | bool | int | float | string | array => exact absurd hw (by simp [foldKeys])

/-- The `parts` of a `Folded` value are `Folded` too. -/
private theorem of_mem_parts (h : v.Folded) {part : Value} (hpart : part ∈ v.parts) :
    part.Folded := by
  obtain ⟨w, rfl⟩ := h
  cases w with
  | array items =>
    rw [foldKeys, foldItems_eq_map, parts, List.mem_map] at hpart
    obtain ⟨item, -, rfl⟩ := hpart
    exact ⟨item, rfl⟩
  | object members =>
    rw [foldKeys, parts, List.mem_map] at hpart
    obtain ⟨⟨name, value⟩, hmember, rfl⟩ := hpart
    obtain ⟨member, -, -, hvalue⟩ := exists_of_mem_settle_foldMembers hmember
    exact ⟨member.2, hvalue⟩
  | null | bool | int | float | string => exact absurd hpart List.not_mem_nil

end Json.Value.Folded

namespace Manuscript

/-! ### Fields and their defaults -/

namespace Place

/-- The parts of a record under the `names` of its fields. -/
def parts (place : Place) : Value → List (String × Value)
  | .object members => members
  | .array items => place.names.zip items
  | .null | .bool _ | .int _ | .float _ | .string _ => []

/-- What a record gives for the field `name`, if it gives anything. -/
def part? (place : Place) (v : Value) (name : String) : Option Value :=
  (place.parts v).lookup name

end Place

/-- A text, or the empty text where none is given. -/
def textOf : Option Value → String
  | some (.string text) => text
  | _ => ""

/-- A truth value, or `false` where none is given. -/
def truthOf : Option Value → Bool
  | some (.bool value) => value
  | _ => false

/-- The number of a choice, or 0 where none is given. -/
def numberOf : Option Value → UInt32
  | some (.int n) => .ofNat n.toNat
  | _ => 0

/-- A reason, or `none` where none is given. -/
def reasonOf : Option Value → Option String
  | some (.string text) => some text
  | _ => none

/-- The elements of an array, or `[]` where none is given. -/
def itemsOf : Option Value → List Value
  | some (.array items) => items
  | _ => []

/-- The texts of an array, or `[]` where none is given. -/
def textsOf (given : Option Value) : List String :=
  (itemsOf given).map fun item => textOf (some item)

/-- The `EffectEntry` in a value. -/
def effectIn (v : Value) : EffectEntry where
  tag := textOf (Place.effect.part? v "type")
  value := textOf (Place.effect.part? v "value")

/-- The `ChoiceEntry` in a value. -/
def choiceIn (v : Value) : ChoiceEntry where
  number := numberOf (Place.choice.part? v "number")
  text := textOf (Place.choice.part? v "text")
  requiresAll := textsOf (Place.choice.part? v "requiresall")
  requiresNone := textsOf (Place.choice.part? v "requiresnone")
  disabledReason := reasonOf (Place.choice.part? v "disabledreason")
  effects := (itemsOf (Place.choice.part? v "effects")).map effectIn

/-- The `SceneEntry` in a value. -/
def sceneIn (v : Value) : SceneEntry where
  id := textOf (Place.scene.part? v "id")
  text := textOf (Place.scene.part? v "text")
  isEnd := truthOf (Place.scene.part? v "isend")
  choices := (itemsOf (Place.scene.part? v "choices")).map choiceIn

/-- The `Manuscript` in a value. -/
def storyIn (v : Value) : Manuscript where
  start := textOf (Place.story.part? v "startsceneid")
  scenes := (itemsOf (Place.story.part? v "scenes")).map sceneIn

/-! ### Parts of folded values -/

namespace Place

variable {place : Place} {v w : Value} {name : String}

/-- What `part?` gives is one of the `parts`. -/
private theorem mem_parts_of_part? (h : place.part? v name = some w) : w ∈ v.parts := by
  rw [part?, List.lookup_eq_some_iff] at h
  obtain ⟨before, after, heq, -⟩ := h
  have hmem : (name, w) ∈ place.parts v := heq ▸ List.mem_append_right _ List.mem_cons_self
  cases v with
  | object members => exact List.mem_map.mpr ⟨_, hmem, rfl⟩
  | array items => exact (List.of_mem_zip hmem).2
  | null | bool | int | float | string => exact absurd hmem List.not_mem_nil

/-- The elements of a list that a `Folded` record gives are `Folded`. -/
private theorem folded_of_mem_itemsOf (hv : v.Folded) (h : w ∈ itemsOf (place.part? v name)) :
    w.Folded := by
  cases hpart : place.part? v name with
  | none =>
    rw [hpart] at h
    exact absurd h List.not_mem_nil
  | some part =>
    have hfolded : part.Folded := hv.of_mem_parts (mem_parts_of_part? hpart)
    rw [hpart] at h
    cases part with
    | array items => exact hfolded.of_mem_parts h
    | null | bool | int | float | string | object => exact absurd h List.not_mem_nil

end Place

/-! ### What is read for a field -/

/-- What is held in a field, given a value that `read` takes or, for `none`, the default. -/
private def ReadsAs {α : Type} (read : Value → Except ShapeFault α) (default : α) :
    Option Value → α → Prop
  | some v, a => read v = .ok a
  | none, a => a = default

section Fields

variable {given : Option Value}

private theorem ReadsAs.textOf_eq {text : String} (h : ReadsAs readText "" given text) :
    textOf given = text := by
  cases given with
  | none => exact h.symm
  | some v => cases v with
    | string t => exact Except.ok.inj h
    | null | bool | int | float | array | object => exact absurd h nofun

private theorem ReadsAs.truthOf_eq {value : Bool} (h : ReadsAs readBool false given value) :
    truthOf given = value := by
  cases given with
  | none => exact h.symm
  | some v => cases v with
    | bool t => exact Except.ok.inj h
    | null | int | float | string | array | object => exact absurd h nofun

private theorem ReadsAs.reasonOf_eq {reason : Option String}
    (h : ReadsAs readOptionalText none given reason) : reasonOf given = reason := by
  cases given with
  | none => exact h.symm
  | some v => cases v with
    | null => exact Except.ok.inj h
    | string t => exact Except.ok.inj h
    | bool | int | float | array | object => exact absurd h nofun

private theorem ReadsAs.numberOf_eq {number : UInt32} (h : ReadsAs readNumber 0 given number) :
    numberOf given = number := by
  cases given with
  | none => exact h.symm
  | some v => cases v with
    | int n => exact (readNumber_int_eq_ok_iff.mp h).2.symm
    | null | bool | float | string | array | object => exact absurd h nofun

/-- A list holds what `f` finds in its elements, if that is what is read of them. -/
private theorem ReadsAs.map_itemsOf_eq {α : Type} {read : Value → Except ShapeFault α}
    {f : Value → α} {held : List α} (h : ReadsAs (readList read) [] given held)
    (hread : ∀ item ∈ itemsOf given, ∀ a, read item = .ok a → f item = a) :
    (itemsOf given).map f = held := by
  cases given with
  | none => exact h.symm
  | some v => cases v with
    | array items =>
      have hheld : List.Forall₂ (fun item a => read item = .ok a) items held :=
        mapM_eq_ok_iff.mp h
      change items.map f = held
      change ∀ item ∈ items, _ at hread
      clear h
      induction hheld with
      | nil => rfl
      | cons hhead _ ih =>
        rw [List.forall_mem_cons] at hread
        rw [List.map_cons, hread.1 _ hhead, ih hread.2]
    | null | bool | int | float | string | object => exact absurd h nofun

private theorem ReadsAs.textsOf_eq {texts : List String}
    (h : ReadsAs (readList readText) [] given texts) : textsOf given = texts := by
  rw [textsOf]
  refine h.map_itemsOf_eq fun item _ text hread => ?_
  have hitem : ReadsAs readText "" (some item) text := hread
  exact hitem.textOf_eq

end Fields

/-! ### Records -/

/-- What holds of all that a `Field` enters holds of all that its reader makes of values. -/
private theorem Field.forall_enter_iff {ρ α : Type} {name : String}
    {read : Value → Except ShapeFault α} {set : α → ρ → ρ} {p : Value → ρ → ρ → Prop} :
    (∀ v draft entered, (Field.of name read set).enter v draft = .ok entered →
      p v draft entered) ↔ ∀ v draft a, read v = .ok a → p v draft (set a draft) := by
  have henter : ∀ v draft entered, (Field.of name read set).enter v draft = .ok entered ↔
      ∃ a, read v = .ok a ∧ set a draft = entered := fun _ _ _ => map_eq_ok_iff
  simp only [henter]
  constructor
  · intro h v draft a ha
    exact h v draft _ ⟨a, ha, rfl⟩
  · rintro h v draft _ ⟨a, ha, rfl⟩
    exact h v draft a ha

namespace Record

variable {ρ α : Type} {record : Record ρ} {name : String} {read : Value → Except ShapeFault α}
  {get : ρ → α}

/-- The part `get` of a record holds what `read` gave for the field `name`. Entering any other field
leaves it alone. -/
private def Slot (record : Record ρ) (name : String) (read : Value → Except ShapeFault α)
    (get : ρ → α) : Prop :=
  name ∈ record.names ∧
    ∀ field ∈ record.fields, ∀ v draft entered, field.enter v draft = .ok entered →
      (field.name = name → read v = .ok (get entered)) ∧
        (field.name ≠ name → get entered = get draft)

/-- A record is read from a `Folded` value that stands at its place. -/
private structure ReadFrom (record : Record ρ) (place : Place) (v : Value) (r : ρ) : Prop where
  describes : place.Describes record
  nodup_names : record.names.Nodup
  folded : v.Folded
  read_eq : record.read v = .ok r

/-- `enterMember` puts a member into the `Slot` that has its key. -/
private theorem Slot.of_enterMember (hslot : record.Slot name read get) {member : String × Value}
    {draft entered : ρ} (h : record.enterMember draft member = .ok entered) :
    (member.1 = name → read member.2 = .ok (get entered)) ∧
      (member.1 ≠ name → get entered = get draft) := by
  rw [enterMember] at h
  cases hfind : record.fields.find? (·.name == member.1) with
  | none =>
    rw [hfind] at h
    cases h
    refine ⟨fun hkey => ?_, fun _ => rfl⟩
    obtain ⟨field, hfield, hfieldName⟩ := List.mem_map.mp hslot.1
    have hnone := find?_eq_none_iff_forall_ne.mp hfind field hfield
    exact absurd (hfieldName.trans hkey.symm) hnone
  | some field =>
    have hkey : field.name = member.1 := by simpa using List.find?_some hfind
    rw [hfind] at h
    rw [← hkey]
    exact hslot.2 field (List.mem_of_find?_eq_some hfind) _ _ _ h

/-- After members under different keys were entered, a `Slot` holds what was read of the member
under its name. -/
private theorem Slot.readsAs_lookup (hslot : record.Slot name read get)
    {members : List (String × Value)} (hnodup : (members.map Prod.fst).Nodup) {draft entered : ρ}
    (h : members.foldlM record.enterMember draft = .ok entered) :
    ReadsAs read (get draft) (members.lookup name) (get entered) := by
  induction members generalizing draft with
  | nil =>
    cases h
    rfl
  | cons member rest ih =>
    rw [List.map_cons, List.nodup_cons] at hnodup
    rw [List.foldlM_cons] at h
    obtain ⟨next, hstep, hsteps⟩ := bind_eq_ok_iff.mp h
    have hmember := hslot.of_enterMember hstep
    have hrest := ih hnodup.2 hsteps
    rw [show member = (member.1, member.2) from rfl, List.lookup_cons]
    by_cases hkey : name = member.1
    · -- the key is not given again, so the slot keeps what was read
      have hnone : rest.lookup name = none := by
        rw [List.lookup_eq_none_iff]
        rintro other hother
        refine bne_iff_ne.mpr fun heq => hnodup.1 ?_
        exact List.mem_map.mpr ⟨other, hother, (hkey.symm.trans heq).symm⟩
      have hkept : get entered = get next := by
        rw [hnone] at hrest
        exact hrest
      rw [beq_iff_eq.mpr hkey]
      change read member.2 = .ok (get entered)
      rw [hkept]
      exact hmember.1 hkey.symm
    · rw [beq_eq_false_iff_ne.mpr hkey, ← hmember.2 (Ne.symm hkey)]
      exact hrest

/-- `enterItem` enters the elements of an array like members under the `names` of the fields. -/
private theorem foldlM_enterItem_eq (hnames : record.names.Nodup) (items : List Value) (draft : ρ) :
    (record.fields.zip items).foldlM enterItem draft =
      (record.names.zip items).foldlM record.enterMember draft := by
  rw [names, List.zip_map_left, List.foldlM_map]
  refine foldlM_eq_of_forall₂ (List.forall₂_same.mpr ?_) draft
  rintro ⟨field, item⟩ hpair draft
  have hfind : record.fields.find? (·.name == field.name) = some field :=
    (find?_eq_some_iff_of_nodup hnames).mpr ⟨(List.of_mem_zip hpair).1, rfl⟩
  change enterItem draft (field, item) = record.enterMember draft (field.name, item)
  rw [enterItem, enterMember, hfind]

private theorem map_fst_zip_sublist {α β : Type} (l : List α) (m : List β) :
    ((l.zip m).map Prod.fst).Sublist l := by
  induction l generalizing m with
  | nil => exact .slnil
  | cons a rest ih =>
    cases m with
    | nil => exact List.nil_sublist _
    | cons b more => exact (ih more).cons_cons a

/-- A `Slot` of a record holds what was read of the part for its field. -/
private theorem Slot.readsAs (hslot : record.Slot name read get) {place : Place} {v : Value} {r : ρ}
    (h : record.ReadFrom place v r) :
    ReadsAs read (get record.blank) (place.part? v name) (get r) := by
  have hread := h.read_eq
  cases v with
  | object members =>
    exact hslot.readsAs_lookup h.folded.nodup_keys (read_object_eq_ok_iff.mp hread).2
  | array items =>
    obtain ⟨-, -, hitems⟩ := read_array_eq_ok_iff.mp hread
    rw [foldlM_enterItem_eq h.nodup_names] at hitems
    rw [Place.part?, Place.parts, ← h.describes.names_eq]
    exact hslot.readsAs_lookup (h.nodup_names.sublist (map_fst_zip_sublist _ items)) hitems
  | null | bool | int | float | string => exact absurd hread nofun

end Record

/-! ### The four records -/

private theorem slots_effectRecord :
    effectRecord.Slot "type" readText (·.tag) ∧ effectRecord.Slot "value" readText (·.value) := by
  simp only [Record.Slot, Record.fields, effectRecord, List.forall_mem_cons,
    Field.forall_enter_iff]
  simp [Record.names, Record.fields, Field.of]

private theorem slots_choiceRecord :
    choiceRecord.Slot "number" readNumber (·.number) ∧ choiceRecord.Slot "text" readText (·.text) ∧
    choiceRecord.Slot "requiresall" (readList readText) (·.requiresAll) ∧
    choiceRecord.Slot "requiresnone" (readList readText) (·.requiresNone) ∧
    choiceRecord.Slot "disabledreason" readOptionalText (·.disabledReason) ∧
    choiceRecord.Slot "effects" (readList effectRecord.read) (·.effects) := by
  simp only [Record.Slot, Record.fields, choiceRecord, List.forall_mem_cons,
    Field.forall_enter_iff]
  simp [Record.names, Record.fields, Field.of]

private theorem slots_sceneRecord :
    sceneRecord.Slot "id" readText (·.id) ∧ sceneRecord.Slot "text" readText (·.text) ∧
    sceneRecord.Slot "isend" readBool (·.isEnd) ∧
    sceneRecord.Slot "choices" (readList choiceRecord.read) (·.choices) := by
  simp only [Record.Slot, Record.fields, sceneRecord, List.forall_mem_cons,
    Field.forall_enter_iff]
  simp [Record.names, Record.fields, Field.of]

private theorem slots_storyRecord :
    storyRecord.Slot "startsceneid" readText (·.start) ∧
    storyRecord.Slot "scenes" (readList sceneRecord.read) (·.scenes) := by
  simp only [Record.Slot, Record.fields, storyRecord, List.forall_mem_cons,
    Field.forall_enter_iff]
  simp [Record.names, Record.fields, Field.of]

section Contents

variable {v : Value}

/-- What is read as an effect is what `effectIn` finds in the value. -/
private theorem effectIn_eq_of_read (hv : v.Folded) {entry : EffectEntry}
    (h : effectRecord.read v = .ok entry) : effectIn v = entry := by
  have hread : effectRecord.ReadFrom .effect v entry := ⟨Place.describes_effect, by decide, hv, h⟩
  obtain ⟨htag, hvalue⟩ := slots_effectRecord
  rw [effectIn, (htag.readsAs hread).textOf_eq, (hvalue.readsAs hread).textOf_eq]

/-- What is read as a choice is what `choiceIn` finds in the value. -/
private theorem choiceIn_eq_of_read (hv : v.Folded) {entry : ChoiceEntry}
    (h : choiceRecord.read v = .ok entry) : choiceIn v = entry := by
  have hread : choiceRecord.ReadFrom .choice v entry := ⟨Place.describes_choice, by decide, hv, h⟩
  obtain ⟨hnumber, htext, hall, hnone, hreason, heffects⟩ := slots_choiceRecord
  have hitems := (heffects.readsAs hread).map_itemsOf_eq fun item hitem entry =>
    effectIn_eq_of_read (Place.folded_of_mem_itemsOf hv hitem)
  rw [choiceIn, (hnumber.readsAs hread).numberOf_eq, (htext.readsAs hread).textOf_eq,
    (hall.readsAs hread).textsOf_eq, (hnone.readsAs hread).textsOf_eq,
    (hreason.readsAs hread).reasonOf_eq, hitems]

/-- What is read as a scene is what `sceneIn` finds in the value. -/
private theorem sceneIn_eq_of_read (hv : v.Folded) {entry : SceneEntry}
    (h : sceneRecord.read v = .ok entry) : sceneIn v = entry := by
  have hread : sceneRecord.ReadFrom .scene v entry := ⟨Place.describes_scene, by decide, hv, h⟩
  obtain ⟨hid, htext, hend, hchoices⟩ := slots_sceneRecord
  have hitems := (hchoices.readsAs hread).map_itemsOf_eq fun item hitem entry =>
    choiceIn_eq_of_read (Place.folded_of_mem_itemsOf hv hitem)
  rw [sceneIn, (hid.readsAs hread).textOf_eq, (htext.readsAs hread).textOf_eq,
    (hend.readsAs hread).truthOf_eq, hitems]

/-- What is read as a story is what `storyIn` finds in the value. -/
private theorem storyIn_eq_of_read (hv : v.Folded) {manuscript : Manuscript}
    (h : storyRecord.read v = .ok manuscript) : storyIn v = manuscript := by
  have hread : storyRecord.ReadFrom .story v manuscript :=
    ⟨Place.describes_story, by decide, hv, h⟩
  obtain ⟨hstart, hscenes⟩ := slots_storyRecord
  have hitems := (hscenes.readsAs hread).map_itemsOf_eq fun item hitem entry =>
    sceneIn_eq_of_read (Place.folded_of_mem_itemsOf hv hitem)
  rw [storyIn, (hstart.readsAs hread).textOf_eq, hitems]

/-- `Manuscript.ofValue` takes a value exactly when its keys fold to a `Form.story`, and gives what
`storyIn` finds in it. -/
theorem ofValue_eq_ok_iff {manuscript : Manuscript} :
    ofValue v = .ok manuscript ↔ Form.story v.foldKeys ∧ manuscript = storyIn v.foldKeys := by
  have hv : v.foldKeys.Folded := ⟨v, rfl⟩
  constructor
  · intro h
    exact ⟨(accepts_storyRecord _).mp ⟨manuscript, h⟩, (storyIn_eq_of_read hv h).symm⟩
  · rintro ⟨hform, rfl⟩
    obtain ⟨read, hread⟩ := (accepts_storyRecord _).mpr hform
    rw [storyIn_eq_of_read hv hread]
    exact hread

end Contents

end Manuscript

end Gamebook
