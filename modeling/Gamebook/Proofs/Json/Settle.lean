import Gamebook.Json.Key
import Mathlib.Data.List.Induction
import Mathlib.Data.List.Nodup

/-!
# Settled members

The members of a folded object stand in the ascending order of their folded keys. Of the members
whose keys have the same folded form the one with the greatest key counts (`Prevails`), wherever it
was written. Where no two members have the same folded key nothing is lost: the settled members are
the members under their folded keys, whatever their order was.

* `pairwise_settle` and `mem_settle_iff_prevails` hold of all objects.
* `mem_settle_iff` and `settle_eq_of_perm` hold where folded keys are different.
-/

namespace Gamebook.Json

variable {α : Type}

/-! ### Lists under ascending keys -/

/-- A list with ascending keys has no key twice. -/
theorem nodup_of_pairwise_keys {l : List (String × α)} (h : (l.map Prod.fst).Pairwise (· < ·)) :
    (l.map Prod.fst).Nodup := by
  refine List.Pairwise.imp ?_ h
  rintro a b hlt rfl
  exact String.lt_irrefl _ hlt

/-- Lists with ascending keys and the same members are the same list. -/
theorem eq_of_pairwise_keys_of_mem_iff {l m : List (String × α)}
    (hl : (l.map Prod.fst).Pairwise (· < ·)) (hm : (m.map Prod.fst).Pairwise (· < ·))
    (h : ∀ pair, pair ∈ l ↔ pair ∈ m) : l = m := by
  have hperm : l.Perm m := (List.perm_ext_iff_of_nodup
    (List.Nodup.of_map _ (nodup_of_pairwise_keys hl))
    (List.Nodup.of_map _ (nodup_of_pairwise_keys hm))).mpr h
  refine hperm.eq_of_pairwise ?_ (List.pairwise_map.mp hl) (List.pairwise_map.mp hm)
  intro a b _ _ hab hba
  exact absurd (String.lt_trans hab hba) (String.lt_irrefl _)

/-! ### Where settled members come from -/

/-- A member with its `foldKey`. -/
private def keyed (member : String × α) : Keyed α := ⟨foldKey member.1, member.1, member.2⟩

/-- The members of an object, put in one after the other by `place`. -/
private def placed (members : List (String × α)) : List (Keyed α) :=
  members.foldl (fun done member => place (keyed member) done) []

private theorem settle_eq (members : List (String × α)) :
    settle members = (placed members).map fun member => (member.folded, member.value) := rfl

private theorem placed_concat (members : List (String × α)) (member : String × α) :
    placed (members ++ [member]) = place (keyed member) (placed members) := by
  rw [placed, List.foldl_append, List.foldl_cons, List.foldl_nil, placed]

/-- The folded keys of members that are `placed` ascend. -/
private theorem pairwise_placed (members : List (String × α)) :
    ((placed members).map (·.folded)).Pairwise (· < ·) := by
  induction members using List.reverseRecOn with
  | nil => exact List.Pairwise.nil
  | append_singleton rest member ih =>
    rw [placed_concat]
    exact pairwise_place ih

/-- The keys that `settle` leaves ascend. -/
theorem pairwise_settle (members : List (String × α)) :
    ((settle members).map Prod.fst).Pairwise (· < ·) := by
  rw [settle_eq, List.map_map]
  exact pairwise_placed members

/-- For each member one with its folded key is `placed`. -/
private theorem exists_mem_placed {members : List (String × α)} {member : String × α}
    (h : member ∈ members) : ∃ x ∈ placed members, x.folded = foldKey member.1 :=
  List.mem_map.mp (mem_folded_foldl_place.mpr (.inr ⟨member, h, rfl⟩))

/-- `place` puts a member in unless one with the same folded key has a greater key. It takes the
place of any other with this folded key. -/
private theorem mem_place_iff {member x : Keyed α} {done : List (Keyed α)}
    (h : (done.map (·.folded)).Pairwise (· < ·)) :
    x ∈ place member done ↔
      x = member ∧ (∀ other ∈ done, other.folded = member.folded → other.key ≤ member.key) ∨
        x ∈ done ∧ (x.folded = member.folded → member.key < x.key) := by
  induction done with
  | nil => simp [place]
  | cons other rest ih =>
    rw [List.map_cons, List.pairwise_cons, List.forall_mem_map] at h
    rw [place]
    split
    · next hlt =>
      -- all folded keys are greater
      have hne : ∀ y ∈ other :: rest, y.folded ≠ member.folded :=
        List.forall_mem_cons.mpr ⟨(String.ne_of_lt hlt).symm,
          fun y hy => (String.ne_of_lt (String.lt_trans hlt (h.1 y hy))).symm⟩
      rw [List.mem_cons, and_iff_left fun y hy heq => absurd heq (hne y hy),
        and_iff_left_of_imp fun hx heq => absurd heq (hne x hx)]
    · split
      · next hsame =>
        -- only the first folded key is the same
        have hne : ∀ y ∈ rest, y.folded ≠ member.folded := fun y hy =>
          hsame ▸ (String.ne_of_lt (h.1 y hy)).symm
        rw [List.forall_mem_cons, and_iff_left fun y hy heq => absurd heq (hne y hy),
          forall_prop_of_true hsame.symm]
        split
        · next hlt =>
          rw [or_iff_right fun hx => String.not_lt.mpr hx.2 hlt, and_iff_left_of_imp]
          rintro hx heq
          rcases List.mem_cons.mp hx with rfl | hx
          · exact hlt
          · exact absurd heq (hne x hx)
        · next hnlt =>
          rw [and_iff_left (String.not_lt.mp hnlt), List.mem_cons, List.mem_cons]
          refine or_congr_right ⟨fun hx => ⟨.inr hx, fun heq => absurd heq (hne x hx)⟩, ?_⟩
          rintro ⟨rfl | hx, hkey⟩
          · exact absurd (hkey hsame.symm) hnlt
          · exact hx
      · next hne =>
        -- the first stays, and the member is placed further on
        have hfirst : other.folded = member.folded → other.key ≤ member.key :=
          fun heq => absurd heq.symm hne
        have hother : x = other → x.folded = member.folded → member.key < x.key := by
          rintro rfl heq
          exact absurd heq.symm hne
        rw [List.mem_cons, ih h.2, List.forall_mem_cons, and_iff_right hfirst, List.mem_cons,
          or_and_right, and_iff_left_of_imp hother, or_left_comm]

/-! ### The member that counts -/

/-- A key counts in an object, with the value that it was given last, if no other key with the
same folded form is greater. -/
structure Prevails (members : List (String × α)) (key : String) (value : α) : Prop where
  last : members.reverse.find? (·.1 == key) = some (key, value)
  greatest : ∀ other ∈ members, foldKey other.1 = foldKey key → other.1 ≤ key

section Prevails

variable {members : List (String × α)} {key : String} {value : α}

theorem Prevails.mem (h : Prevails members key value) : (key, value) ∈ members :=
  List.mem_reverse.mp (List.mem_of_find?_eq_some h.last)

/-- One key with a folded form `Prevails`, with one value. -/
theorem Prevails.unique (h : Prevails members key value) {key' : String} {value' : α}
    (h' : Prevails members key' value') (hfold : foldKey key = foldKey key') :
    key = key' ∧ value = value' := by
  have hkey : key = key' :=
    String.le_antisymm (h'.greatest _ h.mem hfold) (h.greatest _ h'.mem hfold.symm)
  have hlast := h.last
  rw [hkey, h'.last, Option.some.injEq, Prod.mk.injEq] at hlast
  exact ⟨hkey, hlast.2.symm⟩

/-- What `Prevails` after one more member was written: that member, unless a greater key does. -/
theorem prevails_concat_iff {member : String × α} :
    Prevails (members ++ [member]) key value ↔
      (key, value) = member ∧
          (∀ other ∈ members, foldKey other.1 = foldKey member.1 → other.1 ≤ member.1) ∨
        Prevails members key value ∧ (foldKey key = foldKey member.1 → member.1 < key) := by
  have hreverse : (members ++ [member]).reverse = member :: members.reverse := by simp
  by_cases hkey : member.1 = key
  · subst hkey
    have hfind : (members ++ [member]).reverse.find? (·.1 == member.1) = some member := by
      rw [hreverse]
      exact List.find?_cons_of_pos (beq_self_eq_true member.1)
    constructor
    · intro h
      exact .inl ⟨Option.some.inj (h.last.symm.trans hfind),
        fun other hother => h.greatest other (List.mem_append_left _ hother)⟩
    · rintro (⟨heq, hgreatest⟩ | ⟨-, hlt⟩)
      · refine ⟨by rw [hfind, heq], List.forall_mem_append.mpr ⟨hgreatest, ?_⟩⟩
        exact List.forall_mem_singleton.mpr fun _ => String.le_refl _
      · exact absurd (hlt rfl) (String.lt_irrefl _)
  · have hfind : (members ++ [member]).reverse.find? (·.1 == key) =
        members.reverse.find? (·.1 == key) := by
      rw [hreverse]
      exact List.find?_cons_of_neg (mt eq_of_beq hkey)
    constructor
    · intro h
      have hle : foldKey member.1 = foldKey key → member.1 ≤ key :=
        h.greatest member (List.mem_append_right _ List.mem_cons_self)
      exact .inr ⟨⟨hfind ▸ h.last,
          fun other hother => h.greatest other (List.mem_append_left _ hother)⟩,
        fun hfold => lt_of_not_lt_of_ne (String.not_lt.mpr (hle hfold.symm)) (Ne.symm hkey)⟩
    · rintro (⟨rfl, -⟩ | ⟨h, hlt⟩)
      · exact absurd rfl hkey
      · refine ⟨hfind.trans h.last, List.forall_mem_append.mpr ⟨h.greatest, ?_⟩⟩
        exact List.forall_mem_singleton.mpr fun hfold =>
          String.not_lt.mp (String.lt_asymm (hlt hfold.symm))

/-- Changing the values changes what `Prevails` in the same way. -/
theorem prevails_map_iff {β : Type} {f : α → β} {b : β} :
    Prevails (members.map fun member => (member.1, f member.2)) key b ↔
      ∃ a, Prevails members key a ∧ f a = b := by
  constructor
  · intro h
    have hlast := h.last
    rw [← List.map_reverse, List.find?_map, Option.map_eq_some_iff] at hlast
    obtain ⟨⟨_, a⟩, ha, heq⟩ := hlast
    obtain ⟨rfl, hb⟩ := Prod.mk.inj heq
    exact ⟨a, ⟨ha, List.forall_mem_map.mp h.greatest⟩, hb⟩
  · rintro ⟨a, h, rfl⟩
    refine ⟨?_, List.forall_mem_map.mpr h.greatest⟩
    rw [← List.map_reverse, List.find?_map]
    exact congrArg (Option.map fun member => (member.1, f member.2)) h.last

/-- The members that are `placed` are those that prevail. -/
private theorem mem_placed_iff {x : Keyed α} :
    x ∈ placed members ↔ x.folded = foldKey x.key ∧ Prevails members x.key x.value := by
  induction members using List.reverseRecOn generalizing x with
  | nil => exact iff_of_false List.not_mem_nil fun h => absurd h.2.last nofun
  | append_singleton rest member ih =>
    -- of the members with the folded key of the new one, the greatest has a place
    have hgreatest : (∀ other ∈ placed rest, other.folded = foldKey member.1 →
          other.key ≤ member.1) ↔
        ∀ other ∈ rest, foldKey other.1 = foldKey member.1 → other.1 ≤ member.1 := by
      constructor
      · intro h other hother hfold
        obtain ⟨y, hy, hfolded⟩ := exists_mem_placed hother
        obtain ⟨hkey, hprevails⟩ := ih.mp hy
        exact String.le_trans (hprevails.greatest other hother (hfolded.symm.trans hkey))
          (h y hy (hfolded.trans hfold))
      · intro h other hother hfolded
        obtain ⟨hkey, hprevails⟩ := ih.mp hother
        exact h _ hprevails.mem (hkey.symm.trans hfolded)
    have hkeyed : x = keyed member ↔ x.folded = foldKey x.key ∧ (x.key, x.value) = member := by
      constructor
      · rintro rfl
        exact ⟨rfl, rfl⟩
      · rintro ⟨hx, rfl⟩
        rw [keyed, ← hx]
    rw [placed_concat, mem_place_iff (pairwise_placed rest), prevails_concat_iff, ih, hkeyed]
    constructor
    · rintro (⟨⟨hx, heq⟩, h⟩ | ⟨⟨hx, hprevails⟩, hlt⟩)
      · exact ⟨hx, .inl ⟨heq, hgreatest.mp h⟩⟩
      · exact ⟨hx, .inr ⟨hprevails, fun hfold => hlt (hx.trans hfold)⟩⟩
    · rintro ⟨hx, ⟨heq, h⟩ | ⟨hprevails, hlt⟩⟩
      · exact .inl ⟨⟨hx, heq⟩, hgreatest.mpr h⟩
      · exact .inr ⟨⟨hx, hprevails⟩, fun hfold => hlt (hx.symm.trans hfold)⟩

/-- The members that `settle` leaves are those that prevail. -/
theorem mem_settle_iff_prevails {name : String} :
    (name, value) ∈ settle members ↔ ∃ key, foldKey key = name ∧ Prevails members key value := by
  rw [settle_eq, List.mem_map]
  constructor
  · rintro ⟨x, hx, heq⟩
    obtain ⟨rfl, rfl⟩ := Prod.mk.inj heq
    obtain ⟨hfolded, hprevails⟩ := mem_placed_iff.mp hx
    exact ⟨x.key, hfolded.symm, hprevails⟩
  · rintro ⟨key, rfl, hprevails⟩
    exact ⟨keyed (key, value), mem_placed_iff.mpr ⟨rfl, hprevails⟩, rfl⟩

/-- Of the members with a folded key one `Prevails`. -/
theorem exists_prevails {member : String × α} (h : member ∈ members) :
    ∃ key value, foldKey key = foldKey member.1 ∧ Prevails members key value := by
  obtain ⟨x, hx, hfolded⟩ := exists_mem_placed h
  obtain ⟨hkey, hprevails⟩ := mem_placed_iff.mp hx
  exact ⟨x.key, x.value, hkey.symm.trans hfolded, hprevails⟩

/-- What `settle` leaves has its key and its value from a member. -/
private theorem exists_of_mem_settle {name : String} (h : (name, value) ∈ settle members) :
    ∃ member ∈ members, foldKey member.1 = name ∧ member.2 = value := by
  obtain ⟨key, hkey, hprevails⟩ := mem_settle_iff_prevails.mp h
  exact ⟨_, hprevails.mem, hkey, rfl⟩

end Prevails

/-! ### Objects without a clash of keys -/

/-- `settle` leaves all members under their folded keys, if these are different. -/
theorem mem_settle_iff {members : List (String × α)}
    (h : (members.map fun member => foldKey member.1).Nodup) {name : String} {value : α} :
    (name, value) ∈ settle members ↔
      ∃ member ∈ members, foldKey member.1 = name ∧ member.2 = value := by
  refine ⟨exists_of_mem_settle, ?_⟩
  rintro ⟨member, hmem, rfl, rfl⟩
  -- some member has the folded key in the settled list, and it can be no other
  have hkey : foldKey member.1 ∈ (settle members).map Prod.fst :=
    mem_keys_settle.mpr ⟨member, hmem, rfl⟩
  obtain ⟨⟨name, value⟩, hsettled, hname⟩ := List.mem_map.mp hkey
  obtain ⟨other, hother, hfold, hvalue⟩ := exists_of_mem_settle hsettled
  have hsame : other = member := List.inj_on_of_nodup_map h hother hmem (hfold.trans hname)
  rw [hsame] at hvalue
  rw [← hname, hvalue]
  exact hsettled

/-- `settle` gives any list with ascending keys that holds the members under their folded keys. -/
theorem settle_eq_of_perm {members sorted : List (String × α)}
    (hsorted : (sorted.map Prod.fst).Pairwise (· < ·))
    (h : sorted.Perm (members.map fun member => (foldKey member.1, member.2))) :
    settle members = sorted := by
  have hnodup : (members.map fun member => foldKey member.1).Nodup := by
    have hkeys := (h.map Prod.fst).nodup_iff.mp (nodup_of_pairwise_keys hsorted)
    rwa [List.map_map] at hkeys
  refine eq_of_pairwise_keys_of_mem_iff (pairwise_settle members) hsorted fun ⟨name, value⟩ => ?_
  rw [mem_settle_iff hnodup, h.mem_iff, List.mem_map]
  simp only [Prod.mk.injEq]

/-! ### Folding the parts of a value -/

namespace Value

theorem foldItems_eq_map (items : List Value) : foldItems items = items.map foldKeys := by
  induction items with
  | nil => rw [foldItems, List.map_nil]
  | cons value rest ih => rw [foldItems, ih, List.map_cons]

theorem foldMembers_eq_map (members : List (String × Value)) :
    foldMembers members = members.map fun member => (member.1, member.2.foldKeys) := by
  induction members with
  | nil => rw [foldMembers, List.map_nil]
  | cons member rest ih => rw [foldMembers, ih, List.map_cons]

/-- The keys of a folded object are each the `foldKey` of a member. -/
theorem mem_keys_settle_foldMembers {members : List (String × Value)} {name : String} :
    name ∈ (settle (foldMembers members)).map Prod.fst ↔
      ∃ member ∈ members, foldKey member.1 = name := by
  rw [mem_keys_settle, foldMembers_eq_map]
  constructor
  · rintro ⟨folded, hfolded, hname⟩
    obtain ⟨member, hmem, rfl⟩ := List.mem_map.mp hfolded
    exact ⟨member, hmem, hname.symm⟩
  · rintro ⟨member, hmem, hname⟩
    exact ⟨_, List.mem_map_of_mem hmem, hname.symm⟩

/-- The members of a folded object are the foldings of those that prevail. -/
theorem mem_settle_foldMembers_iff {members : List (String × Value)} {name : String}
    {value : Value} :
    (name, value) ∈ settle (foldMembers members) ↔
      ∃ key original, foldKey key = name ∧ Prevails members key original ∧
        original.foldKeys = value := by
  rw [mem_settle_iff_prevails, foldMembers_eq_map]
  simp only [prevails_map_iff, exists_and_left]

/-- A member of a folded object is a member of the object with its key and its value folded. -/
theorem exists_of_mem_settle_foldMembers {members : List (String × Value)} {name : String}
    {value : Value} (h : (name, value) ∈ settle (foldMembers members)) :
    ∃ member ∈ members, foldKey member.1 = name ∧ member.2.foldKeys = value := by
  obtain ⟨key, original, hname, hprevails, hvalue⟩ := mem_settle_foldMembers_iff.mp h
  exact ⟨_, hprevails.mem, hname, hvalue⟩

end Value

end Gamebook.Json
