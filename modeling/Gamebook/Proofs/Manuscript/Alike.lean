import Gamebook.Proofs.Manuscript.Place
import Gamebook.StoryFile

/-!
# Alike values

An author may write the members of an object in any order, spell a key in any way that folds to
the same key, and keep notes in members that are no fields. `Place.Alike` is what such changes
lead to, anywhere in a value. They do not count: where no two members of one object fold to the
same key, alike values are read as the same story or fail with the same error.

* `Place.Alike.agree`: alike values agree in those of their parts that count.
* `Story.ofValue_eq_of_alike`: alike values hold the same story.
-/

namespace Gamebook

open Json (Value foldKey settle)

/-! ### Values without a clash of keys -/

namespace Json.Value

/-- The elements of an array, or the values of the members of an object. -/
def parts : Value → List Value
  | .array items => items
  | .object members => members.map Prod.snd
  | .null | .bool _ | .int _ | .float _ | .string _ => []

/-- The `foldKey` of each key of an object. -/
def foldedKeys : Value → List String
  | .object members => members.map fun member => foldKey member.1
  | .array _ | .null | .bool _ | .int _ | .float _ | .string _ => []

/-- No two members of one object have the same `foldKey`, in the value and in all its parts. -/
inductive KeysApart : Value → Prop
  | intro {value : Value} (keys : value.foldedKeys.Nodup)
      (parts : ∀ part ∈ value.parts, KeysApart part) : KeysApart value

/-- A value without parts has no keys that clash. -/
private theorem KeysApart.leaf {value : Value} (hkeys : value.foldedKeys = [])
    (hparts : value.parts = []) : value.KeysApart := by
  refine .intro (hkeys ▸ List.nodup_nil) fun part hpart => ?_
  rw [hparts] at hpart
  exact absurd hpart List.not_mem_nil

end Json.Value

namespace Manuscript

/-! ### Changes that do not count -/

/-- Values that differ in nothing that counts where they stand. -/
inductive Place.Alike : Place → Value → Value → Prop
  | refl (place : Place) (v : Value) : Alike place v v
  | symm {place : Place} {v w : Value} (h : Alike place v w) : Alike place w v
  | trans {place : Place} {u v w : Value} (h : Alike place u v) (h' : Alike place v w) :
    Alike place u w
  /-- The members of an object in another order. -/
  | reorder {place : Place} {l m : List (String × Value)} (h : l.Perm m) :
    Alike place (.object l) (.object m)
  /-- A key in another spelling. -/
  | respell {place : Place} {key key' : String} {v : Value} {rest : List (String × Value)}
    (h : foldKey key = foldKey key') :
    Alike place (.object ((key, v) :: rest)) (.object ((key', v) :: rest))
  /-- A member of a record that is none of its fields. -/
  | extra {place : Place} {key : String} {v : Value} {rest : List (String × Value)}
    (hrecord : place.isRecord = true) (h : foldKey key ∉ place.names) :
    Alike place (.object ((key, v) :: rest)) (.object rest)
  /-- A change in the value of a member. -/
  | member {place : Place} {key : String} {v w : Value} {rest : List (String × Value)}
    (h : Alike (place.member (foldKey key)) v w) :
    Alike place (.object ((key, v) :: rest)) (.object ((key, w) :: rest))
  /-- A change in an element of an array. -/
  | item {place : Place} (before after : List Value) {v w : Value}
    (h : Alike (place.item before.length) v w) :
    Alike place (.array (before ++ v :: after)) (.array (before ++ w :: after))

/-- Each member of an object that counts has a counterpart in another object, with the same folded
key and a value that is `Place.Alike`. -/
def Place.Covers (place : Place) (l m : List (String × Value)) : Prop :=
  ∀ x ∈ l, place.Heeds (foldKey x.1) →
    ∃ y ∈ m, foldKey y.1 = foldKey x.1 ∧ (place.member (foldKey x.1)).Alike x.2 y.2

/-- Values that are the same at their root and `Place.Alike` in those parts that count. -/
inductive Place.Agree (place : Place) : Value → Value → Prop
  | same (v : Value) : Agree place v v
  | array {items others : List Value} (hlength : items.length = others.length)
    (hitems : ∀ (i : Nat) (v w : Value), items[i]? = some v → others[i]? = some w →
      (place.item i).Alike v w) : Agree place (.array items) (.array others)
  | object {l m : List (String × Value)} (hforth : place.Covers l m) (hback : place.Covers m l) :
    Agree place (.object l) (.object m)

namespace Place

variable {place : Place}

/-! ### One level of a value -/

/-- An object `Place.Covers` one whose members it has. -/
private theorem covers_of_subset {l m : List (String × Value)} (h : l ⊆ m) : place.Covers l m :=
  fun x hx _ => ⟨x, h hx, rfl, .refl _ _⟩

/-- Objects that differ in their first members cover each other when these do. -/
private theorem covers_cons {x y : String × Value} {rest : List (String × Value)}
    (hkey : foldKey y.1 = foldKey x.1) (h : (place.member (foldKey x.1)).Alike x.2 y.2) :
    place.Covers (x :: rest) (y :: rest) := by
  intro z hz _
  rcases List.mem_cons.mp hz with rfl | hz
  · exact ⟨y, List.mem_cons_self, hkey, h⟩
  · exact ⟨z, List.mem_cons_of_mem _ hz, rfl, .refl _ _⟩

theorem Covers.trans {k l m : List (String × Value)} (h : place.Covers k l)
    (h' : place.Covers l m) : place.Covers k m := by
  intro x hx hheeds
  obtain ⟨y, hy, hxy, halike⟩ := h x hx hheeds
  rw [← hxy] at hheeds
  obtain ⟨z, hz, hyz, halike'⟩ := h' y hy hheeds
  rw [hxy] at halike'
  exact ⟨z, hz, hyz.trans hxy, halike.trans halike'⟩

theorem Agree.symm {v w : Value} (h : place.Agree v w) : place.Agree w v := by
  cases h with
  | same => exact .same v
  | array hlength hitems =>
    exact .array hlength.symm fun i x y hx hy => (hitems i y x hy hx).symm
  | object hforth hback => exact .object hback hforth

theorem Agree.trans {u v w : Value} (h : place.Agree u v) (h' : place.Agree v w) :
    place.Agree u w := by
  cases h with
  | same => exact h'
  | @array items others hlength hitems =>
    cases h' with
    | same => exact .array hlength hitems
    | array hlength' hitems' =>
      refine .array (hlength.trans hlength') fun i x z hx hz => ?_
      have hi : i < others.length := by
        rw [← hlength]
        exact (List.getElem?_eq_some_iff.mp hx).1
      have hy : others[i]? = some others[i] := List.getElem?_eq_getElem hi
      exact (hitems i x _ hx hy).trans (hitems' i _ z hy hz)
  | object hforth hback =>
    cases h' with
    | same => exact .object hforth hback
    | object hforth' hback' => exact .object (hforth.trans hforth') (hback'.trans hback)

/-- Values that are `Place.Alike` agree in those of their parts that count. -/
private theorem Alike.agree {v w : Value} (h : place.Alike v w) : place.Agree v w := by
  -- members that count keep their counterparts, even where keys clash in between
  induction h with
  | refl place v => exact .same v
  | symm _ ih => exact ih.symm
  | trans _ _ ih ih' => exact ih.trans ih'
  | reorder h => exact .object (covers_of_subset h.subset) (covers_of_subset h.symm.subset)
  | respell h => exact .object (covers_cons h.symm (.refl _ _)) (covers_cons h (.refl _ _))
  | extra hrecord h =>
    refine .object (fun x hx hheeds => ?_) (covers_of_subset (List.subset_cons_self _ _))
    rcases List.mem_cons.mp hx with rfl | hx
    · exact absurd (hheeds hrecord) h
    · exact ⟨x, hx, rfl, .refl _ _⟩
  | member h => exact .object (covers_cons rfl h) (covers_cons rfl h.symm)
  | item before after h =>
    refine .array (by simp) fun i x y hx hy => ?_
    rcases Nat.lt_trichotomy i before.length with hlt | rfl | hlt
    · rw [List.getElem?_append_left hlt] at hx hy
      rw [Option.some.inj (hx.symm.trans hy)]
      exact .refl _ _
    · rw [List.getElem?_append_right (Nat.le_refl _), Nat.sub_self] at hx hy
      rw [← Option.some.inj hx, ← Option.some.inj hy]
      exact h
    · obtain ⟨k, rfl⟩ := Nat.exists_eq_add_of_lt hlt
      have hk : before.length + k + 1 - before.length = k + 1 := by omega
      rw [List.getElem?_append_right (Nat.le_of_lt hlt), hk, List.getElem?_cons_succ] at hx hy
      rw [Option.some.inj (hx.symm.trans hy)]
      exact .refl _ _

/-! ### Whole values -/

/-- A key that counts and that a covered object has is a key of the object that covers it. -/
private theorem Covers.mem_keys {l m : List (String × Value)} (h : place.Covers l m) {name : String}
    (hheeds : place.Heeds name)
    (hname : name ∈ (settle (Value.foldMembers l)).map Prod.fst) :
    name ∈ (settle (Value.foldMembers m)).map Prod.fst := by
  rw [Value.mem_keys_settle_foldMembers] at hname ⊢
  obtain ⟨x, hx, rfl⟩ := hname
  obtain ⟨y, hy, hkey, _⟩ := h x hx hheeds
  exact ⟨y, hy, hkey⟩

/-- Values that are `Place.Alike` are read alike once their keys are folded. -/
private theorem Alike.same_foldKeys {v w : Value} (h : place.Alike v w) (hv : v.KeysApart)
    (hw : w.KeysApart) : place.Same v.foldKeys w.foldKeys := by
  induction hv generalizing place w with
  | @intro v hkeys _ ih =>
    obtain ⟨hkeys', hparts'⟩ := hw
    cases h.agree with
    | same => rfl
    | array hlength hitems =>
      rw [Value.foldKeys, Value.foldKeys, Value.foldItems_eq_map, Value.foldItems_eq_map]
      refine same_array (by rw [List.length_map, List.length_map, hlength]) fun i x y hx hy => ?_
      rw [List.getElem?_map, Option.map_eq_some_iff] at hx hy
      obtain ⟨x, hx, rfl⟩ := hx
      obtain ⟨y, hy, rfl⟩ := hy
      exact ih x (List.mem_of_getElem? hx) (hitems i x y hx hy)
        (hparts' y (List.mem_of_getElem? hy))
    | object hforth hback =>
      rw [Value.foldKeys, Value.foldKeys]
      refine same_object (Json.pairwise_settle _) (Json.pairwise_settle _)
        (fun name hheeds => ⟨hforth.mem_keys hheeds, hback.mem_keys hheeds⟩) ?_
      intro name hheeds x y hx hy
      obtain ⟨a, ha, rfl, rfl⟩ := Value.exists_of_mem_settle_foldMembers hx
      obtain ⟨b, hb, hab, rfl⟩ := Value.exists_of_mem_settle_foldMembers hy
      obtain ⟨c, hc, hac, halike⟩ := hforth a ha hheeds
      -- the keys of the other object are apart, so the counterpart is the member that was read
      have hsame : c = b := List.inj_on_of_nodup_map hkeys' hc hb (hac.trans hab.symm)
      rw [hsame] at halike
      exact ih a.2 (List.mem_map_of_mem ha) halike (hparts' b.2 (List.mem_map_of_mem hb))

end Place

end Manuscript

/-- `Story.ofValue` gives the same story or the same error for values that are `Place.Alike`. -/
theorem Story.ofValue_eq_of_alike {v w : Value} (h : Manuscript.Place.story.Alike v w)
    (hv : v.KeysApart) (hw : w.KeysApart) : Story.ofValue v = Story.ofValue w := by
  have hread : Manuscript.ofValue v = Manuscript.ofValue w := h.same_foldKeys hv hw
  rw [Story.ofValue, Story.ofValue, hread]

/-- A story in another order and spelling, and with a note about its scene. -/
theorem Story.ofValue_eq_of_note :
    Story.ofValue (.object
      [("startSceneId", .string "cave"),
        ("scenes", .array [.object [("id", .string "cave"), ("isEnd", .bool true)]])]) =
    Story.ofValue (.object
      [("scenes", .array
          [.object [("mood", .null), ("is_end", .bool true), ("id", .string "cave")]]),
        ("start-scene-id", .string "cave")]) := by
  have hstart : foldKey "startSceneId" = foldKey "start-scene-id" := by decide
  have hend : foldKey "isEnd" = foldKey "is_end" := by decide
  refine Story.ofValue_eq_of_alike ?_ ?_ ?_
  · refine .trans (.respell hstart) (.trans (.reorder (.swap _ _ _)) (.member (.item [] [] ?_)))
    refine .trans (.reorder (.swap _ _ _)) (.trans (.respell hend) (.symm ?_))
    exact .extra rfl (by decide)
  · refine .intro (by decide) (List.forall_mem_cons.mpr ⟨.leaf rfl rfl, ?_⟩)
    refine List.forall_mem_singleton.mpr (.intro List.nodup_nil (List.forall_mem_singleton.mpr ?_))
    refine .intro (by decide) (List.forall_mem_cons.mpr ⟨.leaf rfl rfl, ?_⟩)
    exact List.forall_mem_singleton.mpr (.leaf rfl rfl)
  · refine .intro (by decide) (List.forall_mem_cons.mpr ⟨?_, ?_⟩)
    · refine .intro List.nodup_nil (List.forall_mem_singleton.mpr (.intro (by decide) ?_))
      refine List.forall_mem_cons.mpr ⟨.leaf rfl rfl, List.forall_mem_cons.mpr ⟨.leaf rfl rfl, ?_⟩⟩
      exact List.forall_mem_singleton.mpr (.leaf rfl rfl)
    · exact List.forall_mem_singleton.mpr (.leaf rfl rfl)

end Gamebook
