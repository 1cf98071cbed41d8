import Gamebook.Manuscript
import Mathlib.Data.List.Forall2

/-!
# The form of a story

What a value must be to hold a story, said without the way it is read: which fields the four
records have, which of them must be given, and what may stand in each. A value is read exactly
when it has the form. This is proved once for all records (`Record.accepts`): reading a record
stops at the first part that does not fit, and whether a part fits does not depend on the parts
before it.

* `Form.story` is the form of a story, and `Form.record` the two ways to write a record.
* `accepts_storyRecord`: the values that are read as stories.
-/

namespace Gamebook.Manuscript

open Json (Value)

/-! ### Forms -/

/-- What may stand in some place of a story. -/
abbrev Form := Value → Prop

namespace Form

/-- A text. -/
def text : Form := fun v => ∃ text, v = .string text

/-- A truth value. -/
def truth : Form := fun v => ∃ value, v = .bool value

/-- An integer from zero on that fits a `UInt32`. A number that is written otherwise is none. -/
def number : Form := fun v => ∃ n : Int, v = .int n ∧ 0 ≤ n ∧ n ≤ 4294967295

/-- A text or null. -/
def reason : Form := fun v => v = .null ∨ text v

/-- An array of things of the form `item`. -/
def list (item : Form) : Form := fun v => ∃ items, v = .array items ∧ ∀ part ∈ items, item part

/-- A record with the field `required`, which must be given, and the fields `others`, which may be
missing. -/
inductive record (required : String × Form) (others : List (String × Form)) : Value → Prop
  /-- An object. Its members under the names of fields fit, and other members may be anything. -/
  | object {members : List (String × Value)} (given : required.1 ∈ members.map Prod.fst)
    (fits : ∀ field ∈ required :: others, ∀ v, (field.1, v) ∈ members → field.2 v) :
    record required others (.object members)
  /-- An array of the fields in their order, from the first up to any of them. -/
  | array {items : List Value} (given : items ≠ [])
    (length : items.length ≤ (required :: others).length)
    (fits : ∀ pair ∈ (required :: others).zip items, pair.1.2 pair.2) :
    record required others (.array items)

/-- An effect. -/
def effect : Form := record ("type", text) [("value", text)]

/-- A choice. -/
def choice : Form :=
  record ("number", number)
    [("text", text), ("requiresall", list text), ("requiresnone", list text),
      ("disabledreason", reason), ("effects", list effect)]

/-- A scene. -/
def scene : Form :=
  record ("id", text) [("text", text), ("isend", truth), ("choices", list choice)]

/-- A story. -/
def story : Form := record ("startsceneid", text) [("scenes", list scene)]

end Form

/-! ### Readers -/

/-- The reader `read` succeeds exactly on the values of a form. -/
def Accepts {α : Type} (read : Value → Except ShapeFault α) (form : Form) : Prop :=
  ∀ v, (∃ a, read v = .ok a) ↔ form v

private theorem accepts_readText : Accepts readText .text := by
  intro v
  cases v <;> simp [readText, mismatch, Form.text]

private theorem accepts_readOptionalText : Accepts readOptionalText .reason := by
  intro v
  cases v <;> simp [readOptionalText, mismatch, Form.reason, Form.text]

private theorem accepts_readBool : Accepts readBool .truth := by
  intro v
  cases v <;> simp [readBool, mismatch, Form.truth]

/-- `readNumber` takes the integers that fit. -/
theorem readNumber_int_eq_ok_iff {n : Int} {number : UInt32} :
    readNumber (.int n) = .ok number ↔
      (0 ≤ n ∧ n ≤ 4294967295) ∧ number = .ofNat n.toNat := by
  have hsize : UInt32.size = 4294967296 := rfl
  rw [readNumber]
  by_cases hlt : n.toNat < UInt32.size
  · rw [dif_pos hlt, UInt32.ofNatLT_eq_ofNat]
    by_cases hpos : 0 ≤ n
    · have hfits : 0 ≤ n ∧ n ≤ 4294967295 := ⟨hpos, by omega⟩
      rw [if_pos hpos, Except.ok.injEq, and_iff_right hfits]
      exact eq_comm
    · simp [hpos]
  · have hlarge : ¬n ≤ 4294967295 := by omega
    simp [hlt, hlarge]

private theorem accepts_readNumber : Accepts readNumber .number := by
  intro v
  cases v with
  | int n =>
    simp only [readNumber_int_eq_ok_iff, exists_and_left, exists_eq, and_true]
    simp [Form.number]
  | null | bool | float | string | array | object =>
    simp [readNumber, mismatch, Form.number]

/-! ### Results -/

section Results

variable {α β ε : Type} {x : Except ε α}

/-- Two steps succeed when the second one does after the first. -/
theorem bind_eq_ok_iff {f : α → Except ε β} {b : β} :
    x >>= f = .ok b ↔ ∃ a, x = .ok a ∧ f a = .ok b := by
  cases x with
  | error e => exact iff_of_false nofun fun ⟨_, h, _⟩ => absurd h nofun
  | ok a =>
    constructor
    · exact fun h => ⟨a, rfl, h⟩
    · rintro ⟨_, ⟨⟩, h⟩
      exact h

/-- What is made of a result is made of one that there is. -/
theorem map_eq_ok_iff {f : α → β} {b : β} : f <$> x = .ok b ↔ ∃ a, x = .ok a ∧ f a = b := by
  rw [map_eq_pure_bind, bind_eq_ok_iff]
  simp only [pure, Except.pure, Except.ok.injEq]

theorem map_eq_error_iff {f : α → β} {e : ε} : f <$> x = .error e ↔ x = .error e := by
  cases x with
  | ok a => exact iff_of_false nofun nofun
  | error fault =>
    constructor
    · rintro ⟨⟩
      rfl
    · rintro ⟨⟩
      rfl

end Results

/-! ### Lists -/

section Lists

variable {α β σ ε : Type}

/-- `List.mapM` succeeds with what `f` makes of each member. -/
theorem mapM_eq_ok_iff {f : α → Except ε β} {l : List α} {m : List β} :
    l.mapM f = .ok m ↔ List.Forall₂ (fun a b => f a = .ok b) l m := by
  induction l generalizing m with
  | nil =>
    rw [List.mapM_nil, List.forall₂_nil_left_iff]
    exact ⟨fun h => (Except.ok.inj h).symm, fun h => h ▸ rfl⟩
  | cons a rest ih =>
    rw [List.mapM_cons, List.forall₂_cons_left_iff]
    simp only [bind_pure_comp, bind_eq_ok_iff, map_eq_ok_iff, ih]
    constructor
    · rintro ⟨b, hb, bs, hbs, rfl⟩
      exact ⟨b, bs, hb, hbs, rfl⟩
    · rintro ⟨b, bs, hb, hbs, rfl⟩
      exact ⟨b, hb, bs, hbs, rfl⟩

/-- A list is read when `f` reads each of its members. -/
private theorem exists_mapM_eq_ok_iff {f : α → Except ε β} {l : List α} :
    (∃ m, l.mapM f = .ok m) ↔ ∀ a ∈ l, ∃ b, f a = .ok b := by
  simp only [mapM_eq_ok_iff]
  induction l with
  | nil => simp
  | cons a rest ih =>
    rw [List.forall_mem_cons, ← ih]
    constructor
    · rintro ⟨m, hm⟩
      cases hm with
      | cons hhead hrest => exact ⟨⟨_, hhead⟩, _, hrest⟩
    · rintro ⟨⟨b, hb⟩, m, hm⟩
      exact ⟨b :: m, .cons hb hm⟩

/-- Steps are taken to the end when the first one can be taken and the others can be taken from any
state. -/
private theorem exists_foldlM_cons_iff {f : σ → α → Except ε σ} {a : α} {l : List α} {s : σ}
    {head rest : Prop} (hhead : (∃ t, f s a = .ok t) ↔ head)
    (hrest : ∀ t, (∃ u, l.foldlM f t = .ok u) ↔ rest) :
    (∃ u, (a :: l).foldlM f s = .ok u) ↔ head ∧ rest := by
  rw [List.foldlM_cons, ← hhead]
  simp only [bind_eq_ok_iff]
  constructor
  · rintro ⟨u, t, ht, hu⟩
    exact ⟨⟨t, ht⟩, (hrest t).mp ⟨u, hu⟩⟩
  · rintro ⟨⟨t, ht⟩, hall⟩
    obtain ⟨u, hu⟩ := (hrest t).mpr hall
    exact ⟨u, t, ht, hu⟩

private theorem Accepts.readList {read : Value → Except ShapeFault α} {form : Form}
    (h : Accepts read form) : Accepts (readList read) (.list form) := by
  intro v
  cases v with
  | array items =>
    have hitems : (∀ part ∈ items, ∃ a, read part = .ok a) ↔ ∀ part ∈ items, form part :=
      forall₂_congr fun part _ => h part
    rw [Manuscript.readList, exists_mapM_eq_ok_iff, hitems]
    simp [Form.list]
  | null | bool | int | float | string | object =>
    simp [Manuscript.readList, mismatch, Form.list]

end Lists

/-! ### Records -/

/-- A field has the name of a form and `enter` takes exactly the values of the form. -/
structure Field.Takes {ρ : Type} (field : Field ρ) (form : String × Form) : Prop where
  name_eq : field.name = form.1
  exists_enter_iff : ∀ v draft, (∃ entered, field.enter v draft = .ok entered) ↔ form.2 v

/-- A field `Takes` what its reader `Accepts`. -/
private theorem Accepts.takes {ρ α : Type} {name : String} {read : Value → Except ShapeFault α}
    {form : Form} (h : Accepts read form) (set : α → ρ → ρ) :
    (Field.of name read set).Takes (name, form) where
  name_eq := rfl
  exists_enter_iff v draft := by
    refine Iff.trans ?_ (h v)
    change (∃ entered, (set · draft) <$> read v = .ok entered) ↔ _
    simp only [map_eq_ok_iff]
    exact ⟨fun ⟨_, a, ha, _⟩ => ⟨a, ha⟩, fun ⟨a, ha⟩ => ⟨_, a, ha, rfl⟩⟩

namespace Record

variable {ρ : Type} {record : Record ρ} {required : String × Form} {others : List (String × Form)}

/-- Each field of a record `Takes` what a form says of it. -/
private structure Follows (record : Record ρ) (required : String × Form)
    (others : List (String × Form)) : Prop where
  takes : List.Forall₂ Field.Takes record.fields (required :: others)
  nodup_names : record.names.Nodup

/-- The names of the fields are those of the forms that they take. -/
private theorem names_eq_of_takes {fields : List (Field ρ)} {forms : List (String × Form)}
    (h : List.Forall₂ Field.Takes fields forms) :
    fields.map (·.name) = forms.map Prod.fst := by
  induction h with
  | nil => rfl
  | cons hhead _ ih => rw [List.map_cons, List.map_cons, hhead.name_eq, ih]

/-- `enterMember` takes a member of an object that fits the field with its name, if there is one. -/
private theorem exists_enterMember_iff (h : record.Follows required others)
    (member : String × Value) (draft : ρ) :
    (∃ entered, record.enterMember draft member = .ok entered) ↔
      ∀ form ∈ required :: others, form.1 = member.1 → form.2 member.2 := by
  have hnodup : ((required :: others).map Prod.fst).Nodup :=
    names_eq_of_takes h.takes ▸ h.nodup_names
  have htakes := h.takes
  rw [enterMember]
  generalize record.fields = fields at htakes
  generalize required :: others = forms at htakes hnodup
  induction htakes with
  | nil => simp
  | @cons field form rest forms hhead hrest ih =>
    rw [List.map_cons, List.nodup_cons] at hnodup
    rw [List.find?_cons, List.forall_mem_cons]
    by_cases hname : form.1 = member.1
    · -- no later field has the name
      have hothers : ∀ other ∈ forms, other.1 = member.1 → other.2 member.2 := by
        intro other hother heq
        exact absurd (List.mem_map.mpr ⟨other, hother, heq.trans hname.symm⟩) hnodup.1
      rw [beq_iff_eq.mpr (hhead.name_eq.trans hname)]
      refine (hhead.exists_enter_iff member.2 draft).trans ?_
      exact ⟨fun hfits => ⟨fun _ => hfits, hothers⟩, fun hall => hall.1 hname⟩
    · rw [beq_eq_false_iff_ne.mpr fun heq => hname (hhead.name_eq.symm.trans heq)]
      refine (ih hnodup.2).trans ?_
      exact ⟨fun hall => ⟨fun heq => absurd heq hname, hall⟩, And.right⟩

/-- `enterItem` takes the elements of an array when each of them fits the field at its place. -/
private theorem exists_foldlM_enterItem_iff {fields : List (Field ρ)} {forms : List (String × Form)}
    (h : List.Forall₂ Field.Takes fields forms) (items : List Value) (draft : ρ) :
    (∃ entered, (fields.zip items).foldlM enterItem draft = .ok entered) ↔
      ∀ pair ∈ forms.zip items, pair.1.2 pair.2 := by
  induction h generalizing items draft with
  | nil => simpa using ⟨draft, rfl⟩
  | @cons field form _ forms hhead _ ih =>
    cases items with
    | nil => simpa using ⟨draft, rfl⟩
    | cons item rest =>
      rw [List.zip_cons_cons, List.zip_cons_cons, List.forall_mem_cons]
      exact exists_foldlM_cons_iff (hhead.exists_enter_iff item draft) (ih rest)

/-- `enterMember` takes the members of an object when each of them fits. -/
private theorem exists_foldlM_enterMember_iff (h : record.Follows required others)
    (members : List (String × Value)) (draft : ρ) :
    (∃ entered, members.foldlM record.enterMember draft = .ok entered) ↔
      ∀ form ∈ required :: others, ∀ v, (form.1, v) ∈ members → form.2 v := by
  have hfits : (∃ entered, members.foldlM record.enterMember draft = .ok entered) ↔
      ∀ member ∈ members, ∀ form ∈ required :: others, form.1 = member.1 → form.2 member.2 := by
    induction members generalizing draft with
    | nil => exact iff_of_true ⟨draft, rfl⟩ (List.forall_mem_nil _)
    | cons member rest ih =>
      rw [List.forall_mem_cons]
      exact exists_foldlM_cons_iff (exists_enterMember_iff h member draft) ih
  rw [hfits]
  constructor
  · exact fun hall form hform v hv => hall (form.1, v) hv form hform rfl
  · rintro hall ⟨name, v⟩ hmember form hform rfl
    exact hall form hform v hmember

/-- `Record.read` takes an object whose members are entered and have the first field among them. -/
theorem read_object_eq_ok_iff {members : List (String × Value)} {r : ρ} :
    record.read (.object members) = .ok r ↔
      record.required.name ∈ members.map Prod.fst ∧
        members.foldlM record.enterMember record.blank = .ok r := by
  rw [read, ← any_key_iff]
  cases members.foldlM record.enterMember record.blank with
  | error fault => exact iff_of_false nofun nofun
  | ok entered =>
    cases members.any (·.1 == record.required.name) with
    | false => exact iff_of_false nofun nofun
    | true => exact (and_iff_right rfl).symm

/-- `Record.read` takes an array with neither too few nor too many elements if they are entered. -/
theorem read_array_eq_ok_iff {items : List Value} {r : ρ} :
    record.read (.array items) = .ok r ↔
      items ≠ [] ∧ items.length ≤ record.fields.length ∧
        (record.fields.zip items).foldlM enterItem record.blank = .ok r := by
  rw [read]
  cases items with
  | nil => simp
  | cons item rest =>
    rw [if_neg (by simp), and_iff_right (List.cons_ne_nil item rest)]
    cases (record.fields.zip (item :: rest)).foldlM enterItem record.blank with
    | error fault => exact iff_of_false nofun nofun
    | ok entered =>
      change (if record.fields.length < (item :: rest).length then
        Except.error (ShapeFault.tooMany (item :: rest).length) else .ok entered) = .ok r ↔ _
      rw [← Nat.not_lt]
      split
      · next hlong => exact iff_of_false nofun fun h => h.1 hlong
      · next hfits => exact (and_iff_right hfits).symm

/-- A record that `Follows` a form is read exactly from the values of the form. -/
private theorem accepts (h : record.Follows required others) :
    Accepts record.read (.record required others) := by
  have hrequired : record.required.name = required.1 := by
    have htakes := h.takes
    rw [fields, List.forall₂_cons] at htakes
    exact htakes.1.name_eq
  have hlength : record.fields.length = (required :: others).length := h.takes.length_eq
  intro v
  cases v with
  | object members =>
    simp only [read_object_eq_ok_iff, exists_and_left]
    rw [exists_foldlM_enterMember_iff h, hrequired]
    constructor
    · exact fun ⟨hgiven, hfits⟩ => .object hgiven hfits
    · rintro ⟨hgiven, hfits⟩
      exact ⟨hgiven, hfits⟩
  | array items =>
    simp only [read_array_eq_ok_iff, exists_and_left]
    rw [exists_foldlM_enterItem_iff h.takes, hlength]
    constructor
    · exact fun ⟨hgiven, hle, hfits⟩ => .array hgiven hle hfits
    · rintro (_ | ⟨hgiven, hle, hfits⟩)
      exact ⟨hgiven, hle, hfits⟩
  | null | bool | int | float | string =>
    exact iff_of_false (fun ⟨r, hr⟩ => absurd hr nofun) nofun

end Record

/-! ### The four records -/

private theorem accepts_effectRecord : Accepts effectRecord.read .effect :=
  Record.accepts
    { takes := .cons (accepts_readText.takes _) (.cons (accepts_readText.takes _) .nil)
      nodup_names := by decide }

private theorem accepts_choiceRecord : Accepts choiceRecord.read .choice :=
  Record.accepts
    { takes := .cons (accepts_readNumber.takes _) <| .cons (accepts_readText.takes _) <|
        .cons (accepts_readText.readList.takes _) <| .cons (accepts_readText.readList.takes _) <|
        .cons (accepts_readOptionalText.takes _) <|
        .cons (accepts_effectRecord.readList.takes _) .nil
      nodup_names := by decide }

private theorem accepts_sceneRecord : Accepts sceneRecord.read .scene :=
  Record.accepts
    { takes := .cons (accepts_readText.takes _) <| .cons (accepts_readText.takes _) <|
        .cons (accepts_readBool.takes _) <| .cons (accepts_choiceRecord.readList.takes _) .nil
      nodup_names := by decide }

/-- `storyRecord` is read exactly from the values of `Form.story`. -/
theorem accepts_storyRecord : Accepts storyRecord.read .story :=
  Record.accepts
    { takes := .cons (accepts_readText.takes _) <|
        .cons (accepts_sceneRecord.readList.takes _) .nil
      nodup_names := by decide }

end Gamebook.Manuscript
