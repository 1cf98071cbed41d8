import Gamebook.Manuscript
import Gamebook.Proofs.Json.Settle

/-!
# Places of a manuscript

A value is read by the place where it stands: as a record, as a list, or, where a field holds
neither, as what it is. What is read at a place depends on its parts only through what is read at
their places. This is said once for records written as objects (`Describes.read_object`), where
members that are no fields do not matter, and once for those written as arrays
(`Describes.read_array`).

* `Place.read` reads a value at a place, and `Place.Describes` ties a record to its place.
-/

namespace Gamebook.Manuscript

open Json (Value)

/-- Where in a manuscript a value stands. -/
inductive Place where
  | story
  | scene
  | choice
  | effect
  /-- A list of what is held at another place. -/
  | list (item : Place)
  /-- The value of a field that is no list of records, and whatever stands outside of records. -/
  | plain
deriving DecidableEq

namespace Place

/-- Whether a record is held at a place. -/
def isRecord : Place → Bool
  | story | scene | choice | effect => true
  | list _ | plain => false

/-- The folded names of the fields of a record, each with the `Place` of its value. -/
def fields : Place → List (String × Place)
  | story => [("startsceneid", plain), ("scenes", list scene)]
  | scene => [("id", plain), ("text", plain), ("isend", plain), ("choices", list choice)]
  | choice =>
    [("number", plain), ("text", plain), ("requiresall", plain), ("requiresnone", plain),
      ("disabledreason", plain), ("effects", list effect)]
  | effect => [("type", plain), ("value", plain)]
  | list _ | plain => []

/-- The folded names of the fields of a record. -/
def names (place : Place) : List String := place.fields.map Prod.fst

/-- The `Place` of the member of an object under the folded key `name`. -/
def member (place : Place) (name : String) : Place := (place.fields.lookup name).getD plain

/-- The `Place` of an element of an array. A record may be written as an array of its fields. -/
def item : Place → Nat → Place
  | list item, _ => item
  | place, i => ((place.fields[i]?).map Prod.snd).getD plain

/-- Whether a member with the folded key `name` counts: in a record, only those that are fields
do. -/
def Heeds (place : Place) (name : String) : Prop := place.isRecord = true → name ∈ place.names

/-- What is held at a place. -/
def Content : Place → Type
  | story => Manuscript
  | scene => SceneEntry
  | choice => ChoiceEntry
  | effect => EffectEntry
  | list item => List item.Content
  | plain => Value

/-- Reads the value that stands at a place. -/
def read : (place : Place) → Value → Except ShapeFault place.Content
  | story => storyRecord.read
  | scene => sceneRecord.read
  | choice => choiceRecord.read
  | effect => effectRecord.read
  | list item => readList item.read
  | plain => .ok

/-- `Place.read` reads the values alike at a place. -/
def Same (place : Place) (v w : Value) : Prop := place.read v = place.read w

/-- At the place `plain`, values are read alike only when they are equal. -/
private theorem same_plain_iff {v w : Value} : plain.Same v w ↔ v = w :=
  ⟨fun h => Except.ok.inj h, fun h => h ▸ rfl⟩

/-- The record `record` is the one that is held at a place. -/
structure Describes (place : Place) {ρ : Type} (record : Record ρ) : Prop where
  isRecord : place.isRecord = true
  names_eq : record.names = place.names
  places_eq : record.fields.map (fun field => place.member field.name) =
    place.fields.map Prod.snd
  /-- What a field makes of a value depends on what is read at the place of the field. -/
  enter_eq : ∀ field ∈ record.fields, ∀ v w, (place.member field.name).Same v w →
    field.enter v = field.enter w

/-! ### The four records -/

section Records

variable {ρ α : Type} {name : String} {read : Value → Except ShapeFault α} {set : α → ρ → ρ}
  {v w : Value}

/-- A field enters alike what `read` reads alike. -/
private theorem enter_of_eq (h : read v = read w) :
    (Field.of name read set).enter v = (Field.of name read set).enter w := by
  funext draft
  change (set · draft) <$> read v = (set · draft) <$> read w
  rw [h]

/-- A field at the place `plain` enters equal values alike. -/
private theorem enter_of_plain (h : plain.Same v w) :
    (Field.of name read set).enter v = (Field.of name read set).enter w := by
  rw [same_plain_iff.mp h]

end Records

theorem describes_story : story.Describes storyRecord where
  isRecord := rfl
  names_eq := rfl
  places_eq := rfl
  enter_eq := by
    intro field hfield v w h
    simp only [Record.fields, storyRecord, List.mem_cons, List.not_mem_nil, or_false] at hfield
    rcases hfield with rfl | rfl
    · exact enter_of_plain h
    · exact enter_of_eq h

theorem describes_scene : scene.Describes sceneRecord where
  isRecord := rfl
  names_eq := rfl
  places_eq := rfl
  enter_eq := by
    intro field hfield v w h
    simp only [Record.fields, sceneRecord, List.mem_cons, List.not_mem_nil, or_false] at hfield
    rcases hfield with rfl | rfl | rfl | rfl
    · exact enter_of_plain h
    · exact enter_of_plain h
    · exact enter_of_plain h
    · exact enter_of_eq h

theorem describes_choice : choice.Describes choiceRecord where
  isRecord := rfl
  names_eq := rfl
  places_eq := rfl
  enter_eq := by
    intro field hfield v w h
    simp only [Record.fields, choiceRecord, List.mem_cons, List.not_mem_nil, or_false] at hfield
    rcases hfield with rfl | rfl | rfl | rfl | rfl | rfl
    · exact enter_of_plain h
    · exact enter_of_plain h
    · exact enter_of_plain h
    · exact enter_of_plain h
    · exact enter_of_plain h
    · exact enter_of_eq h

theorem describes_effect : effect.Describes effectRecord where
  isRecord := rfl
  names_eq := rfl
  places_eq := rfl
  enter_eq := by
    intro field hfield v w h
    simp only [Record.fields, effectRecord, List.mem_cons, List.not_mem_nil, or_false] at hfield
    rcases hfield with rfl | rfl
    · exact enter_of_plain h
    · exact enter_of_plain h

end Place

/-! ### Reading members and elements -/

/-- Lists of the same length that are related at each position are related member by member. -/
private theorem forall₂_of_getElem? {α β : Type} {R : α → β → Prop} {l : List α} {m : List β}
    (hlength : l.length = m.length)
    (h : ∀ (i : Nat) (a : α) (b : β), l[i]? = some a → m[i]? = some b → R a b) :
    List.Forall₂ R l m := by
  induction l generalizing m with
  | nil =>
    rw [List.length_nil, eq_comm, List.length_eq_zero_iff] at hlength
    rw [hlength]
    exact .nil
  | cons a rest ih =>
    cases m with
    | nil => exact absurd hlength (by simp)
    | cons b more =>
      refine .cons (h 0 a b rfl rfl) (ih (by simpa using hlength) fun i x y hx hy => ?_)
      exact h (i + 1) x y hx hy

/-- Lists under the same keys whose values under one key are related are related member by
member. -/
private theorem forall₂_of_keys {α β : Type} {R : String → α → β → Prop} {l : List (String × α)}
    {m : List (String × β)} (hkeys : l.map Prod.fst = m.map Prod.fst)
    (h : ∀ name a b, (name, a) ∈ l → (name, b) ∈ m → R name a b) :
    List.Forall₂ (fun x y => x.1 = y.1 ∧ R x.1 x.2 y.2) l m := by
  induction l generalizing m with
  | nil =>
    rw [List.map_nil, eq_comm, List.map_eq_nil_iff] at hkeys
    rw [hkeys]
    exact .nil
  | cons x rest ih =>
    cases m with
    | nil => exact absurd hkeys (by simp)
    | cons y more =>
      rw [List.map_cons, List.map_cons, List.cons.injEq] at hkeys
      have hy : (x.1, y.2) = y := by rw [hkeys.1]
      refine .cons ⟨hkeys.1, h x.1 x.2 y.2 List.mem_cons_self (hy ▸ List.mem_cons_self)⟩ ?_
      exact ih hkeys.2 fun name a b ha hb =>
        h name a b (List.mem_cons_of_mem _ ha) (List.mem_cons_of_mem _ hb)

/-- Steps that agree member by member agree on the whole lists. -/
theorem foldlM_eq_of_forall₂ {α β σ ε : Type} {f : σ → α → Except ε σ} {g : σ → β → Except ε σ}
    {l : List α} {m : List β} (h : List.Forall₂ (fun a b => ∀ s, f s a = g s b) l m) (s : σ) :
    l.foldlM f s = m.foldlM g s := by
  induction h generalizing s with
  | nil => rfl
  | cons hhead _ ih =>
    rw [List.foldlM_cons, List.foldlM_cons, hhead]
    exact congrArg _ (funext ih)

/-- Readers that agree member by member read lists alike. -/
private theorem mapM_eq_of_forall₂ {α β γ ε : Type} {f : α → Except ε γ} {g : β → Except ε γ}
    {l : List α} {m : List β} (h : List.Forall₂ (fun a b => f a = g b) l m) :
    l.mapM f = m.mapM g := by
  induction h with
  | nil => rfl
  | cons hhead _ ih => rw [List.mapM_cons, List.mapM_cons, hhead, ih]

/-- The keys that are kept are those among `names`. -/
private theorem mem_keys_filter_iff {α : Type} {members : List (String × α)} {names : List String}
    {name : String} : name ∈ (members.filter (·.1 ∈ names)).map Prod.fst ↔
      name ∈ names ∧ name ∈ members.map Prod.fst := by
  simp only [List.mem_map, List.mem_filter, decide_eq_true_eq]
  constructor
  · rintro ⟨member, ⟨hmem, hname⟩, rfl⟩
    exact ⟨hname, member, hmem, rfl⟩
  · rintro ⟨hname, member, hmem, rfl⟩
    exact ⟨member, ⟨hmem, hname⟩, rfl⟩

namespace Record

variable {ρ : Type} {record : Record ρ}

/-- `enterMember` passes over members that are no fields. -/
private theorem foldlM_enterMember_filter (members : List (String × Value)) (draft : ρ) :
    members.foldlM record.enterMember draft =
      (members.filter (·.1 ∈ record.names)).foldlM record.enterMember draft := by
  induction members generalizing draft with
  | nil => rfl
  | cons member rest ih =>
    by_cases hname : member.1 ∈ record.names
    · rw [List.filter_cons_of_pos (by simpa using hname), List.foldlM_cons, List.foldlM_cons]
      exact congrArg _ (funext ih)
    · rw [List.filter_cons_of_neg (by simpa using hname), List.foldlM_cons,
        enterMember_of_notMem hname]
      exact ih draft

/-- `enterMember` enters members with the same key alike when the field enters their values
alike. -/
private theorem enterMember_congr {x y : String × Value} (hkey : x.1 = y.1)
    (h : ∀ field ∈ record.fields, field.name = x.1 → field.enter x.2 = field.enter y.2)
    (draft : ρ) : record.enterMember draft x = record.enterMember draft y := by
  rw [enterMember, enterMember, ← hkey]
  cases hfind : record.fields.find? (·.name == x.1) with
  | none => rfl
  | some field =>
    have hname : field.name = x.1 := by simpa using List.find?_some hfind
    dsimp only
    rw [h field (List.mem_of_find?_eq_some hfind) hname]

end Record

namespace Place.Describes

variable {place : Place} {ρ : Type} {record : Record ρ}

/-- An element of an array stands at the place of its field, if there is one. -/
private theorem item_eq (h : place.Describes record) (i : Nat) :
    place.item i = ((place.fields[i]?).map Prod.snd).getD plain := by
  have hrecord := h.isRecord
  cases place with
  | list item => exact absurd hrecord Bool.false_ne_true
  | story | scene | choice | effect | plain => rfl

/-- `enterMember` enters members with the same key alike when `Same` holds of their values at its
place. -/
private theorem enterMember_eq (h : place.Describes record) {x y : String × Value}
    (hkey : x.1 = y.1) (hsame : (place.member x.1).Same x.2 y.2) (draft : ρ) :
    record.enterMember draft x = record.enterMember draft y := by
  refine Record.enterMember_congr hkey (fun field hfield hname => ?_) draft
  refine h.enter_eq field hfield x.2 y.2 ?_
  rw [hname]
  exact hsame

/-- What is read of a record that is written as an object depends only on what is read of the
members that it `Heeds`. -/
private theorem read_object (h : place.Describes record) {l m : List (String × Value)}
    (hl : (l.map Prod.fst).Pairwise (· < ·)) (hm : (m.map Prod.fst).Pairwise (· < ·))
    (hkeys : ∀ name, place.Heeds name → (name ∈ l.map Prod.fst ↔ name ∈ m.map Prod.fst))
    (hvalues : ∀ name, place.Heeds name → ∀ v w, (name, v) ∈ l → (name, w) ∈ m →
      (place.member name).Same v w) :
    record.read (.object l) = record.read (.object m) := by
  have hfield : ∀ name ∈ record.names, place.Heeds name := by
    rw [h.names_eq]
    exact fun name hname _ => hname
  -- without the other members the two objects have the same keys in the same order
  have hfields : (l.filter (·.1 ∈ record.names)).map Prod.fst =
      (m.filter (·.1 ∈ record.names)).map Prod.fst := by
    refine FlagSet.eq_of_pairwise_of_mem_iff (hl.sublist (List.filter_sublist.map _))
      (hm.sublist (List.filter_sublist.map _)) fun name => ?_
    rw [mem_keys_filter_iff, mem_keys_filter_iff]
    exact and_congr_right fun hname => hkeys name (hfield name hname)
  have hdraft : l.foldlM record.enterMember record.blank =
      m.foldlM record.enterMember record.blank := by
    rw [Record.foldlM_enterMember_filter l, Record.foldlM_enterMember_filter m]
    refine foldlM_eq_of_forall₂ ((forall₂_of_keys (R := fun name v w =>
      (place.member name).Same v w) hfields fun name v w hv hw => ?_).imp ?_) _
    · obtain ⟨hmem, hname⟩ := List.mem_filter.mp hv
      exact hvalues name (hfield name (by simpa using hname)) v w hmem (List.mem_filter.mp hw).1
    · rintro x y ⟨hkey, hsame⟩ draft
      exact h.enterMember_eq hkey hsame draft
  have hgiven : l.any (·.1 == record.required.name) = m.any (·.1 == record.required.name) := by
    rw [Bool.eq_iff_iff, any_key_iff, any_key_iff]
    exact hkeys _ (hfield _ List.mem_cons_self)
  rw [Record.read, Record.read, hdraft, hgiven]

/-- What is read of a record that is written as an array depends only on what is read of its
elements. -/
private theorem read_array (h : place.Describes record) {items others : List Value}
    (hlength : items.length = others.length)
    (hvalues : ∀ (i : Nat) (v w : Value), items[i]? = some v → others[i]? = some w →
      (place.item i).Same v w) :
    record.read (.array items) = record.read (.array others) := by
  have hitem : ∀ (i : Nat) (field : Field ρ), record.fields[i]? = some field →
      place.item i = place.member field.name := by
    intro i field hfield
    have hplace := congrArg (·[i]?) h.places_eq
    rw [List.getElem?_map, hfield, Option.map_some] at hplace
    rw [h.item_eq, ← List.getElem?_map, ← hplace, Option.getD_some]
  have hdraft : (record.fields.zip items).foldlM Record.enterItem record.blank =
      (record.fields.zip others).foldlM Record.enterItem record.blank := by
    refine foldlM_eq_of_forall₂ (forall₂_of_getElem? ?_ fun i x y hx hy => ?_) _
    · rw [List.length_zip, List.length_zip, hlength]
    · obtain ⟨hfield, hv⟩ := List.getElem?_zip_eq_some.mp hx
      obtain ⟨hother, hw⟩ := List.getElem?_zip_eq_some.mp hy
      have hfields : x.1 = y.1 := Option.some.inj (hfield.symm.trans hother)
      have hsame := hvalues i x.2 y.2 hv hw
      rw [hitem i x.1 hfield] at hsame
      intro draft
      rw [Record.enterItem, Record.enterItem, ← hfields]
      rw [h.enter_eq x.1 (List.mem_of_getElem? hfield) x.2 y.2 hsame]
  have hempty : items.isEmpty = others.isEmpty := by
    rw [Bool.eq_iff_iff, List.isEmpty_iff_length_eq_zero, List.isEmpty_iff_length_eq_zero, hlength]
  rw [Record.read, Record.read, hdraft, hempty, hlength]

end Place.Describes

namespace Place

variable {place : Place}

/-- `Same` holds of lists if it holds of their elements at each position. -/
theorem same_array {items others : List Value} (hlength : items.length = others.length)
    (hvalues : ∀ (i : Nat) (v w : Value), items[i]? = some v → others[i]? = some w →
      (place.item i).Same v w) :
    place.Same (.array items) (.array others) := by
  cases place with
  | story => exact describes_story.read_array hlength hvalues
  | scene => exact describes_scene.read_array hlength hvalues
  | choice => exact describes_choice.read_array hlength hvalues
  | effect => exact describes_effect.read_array hlength hvalues
  | list item => exact mapM_eq_of_forall₂ (forall₂_of_getElem? hlength hvalues)
  | plain =>
    have hequal : List.Forall₂ Eq items others := by
      refine forall₂_of_getElem? hlength fun i v w hv hw => ?_
      exact same_plain_iff.mp (hvalues i v w hv hw)
    rw [List.forall₂_eq_eq_eq] at hequal
    exact same_plain_iff.mpr (congrArg _ hequal)

/-- `Same` holds of objects under ascending keys if it holds of the members that the place
`Heeds`. -/
theorem same_object {l m : List (String × Value)}
    (hl : (l.map Prod.fst).Pairwise (· < ·)) (hm : (m.map Prod.fst).Pairwise (· < ·))
    (hkeys : ∀ name, place.Heeds name → (name ∈ l.map Prod.fst ↔ name ∈ m.map Prod.fst))
    (hvalues : ∀ name, place.Heeds name → ∀ v w, (name, v) ∈ l → (name, w) ∈ m →
      (place.member name).Same v w) :
    place.Same (.object l) (.object m) := by
  cases place with
  | story => exact describes_story.read_object hl hm hkeys hvalues
  | scene => exact describes_scene.read_object hl hm hkeys hvalues
  | choice => exact describes_choice.read_object hl hm hkeys hvalues
  | effect => exact describes_effect.read_object hl hm hkeys hvalues
  | list item => rfl
  | plain =>
    have hheeds : ∀ name, plain.Heeds name := fun _ hrecord => absurd hrecord Bool.false_ne_true
    have hnames : l.map Prod.fst = m.map Prod.fst :=
      FlagSet.eq_of_pairwise_of_mem_iff hl hm fun name => hkeys name (hheeds name)
    have hequal : List.Forall₂ Eq l m := by
      refine (forall₂_of_keys (R := fun _ => Eq) hnames fun name v w hv hw => ?_).imp ?_
      · exact same_plain_iff.mp (hvalues name (hheeds name) v w hv hw)
      · exact fun x y h => Prod.ext h.1 h.2
    rw [List.forall₂_eq_eq_eq] at hequal
    exact same_plain_iff.mpr (congrArg _ hequal)

end Place

end Gamebook.Manuscript
