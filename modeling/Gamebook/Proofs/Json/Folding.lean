import Gamebook.Proofs.Book.Lookup
import Gamebook.Proofs.Json.Settle
import Gamebook.Proofs.Text.Lowercase

/-!
# Folding

What becomes of a value when its keys are folded, said without the way it is done. Plain values
stay as they are, an array keeps its elements in their order, and an object has each folded key
once. Several spellings of a key may stand in one object, and of these the greatest one counts.
A value whose keys are folded is folded already.

* `foldKey_foldKey`: a folded key is its own folded form.
* `Value.FoldsTo`: a value and what its folding must be, at all depths.
* `Value.foldKeys_keeps_greatest`: folding is what it must be, and is done once and for all.
-/

namespace Gamebook.Json

/-! ### Keys -/

/-- The characters of `foldKey` are the lower cases of those of the key, apart from its marks. -/
theorem mem_foldKey_iff {key : String} {d : Char} :
    d ∈ (foldKey key).toList ↔
      ∃ c ∈ key.toList, (c ≠ '_' ∧ c ≠ '-') ∧ d ∈ Text.toLower c := by
  rw [foldKey, String.toList_ofList, List.mem_flatMap]
  simp only [List.mem_filter, Bool.and_eq_true, bne_iff_ne, and_assoc]

/-- A folded key is its own `foldKey`. -/
theorem foldKey_foldKey (key : String) : foldKey (foldKey key) = foldKey key := by
  have hmark : ∀ d ∈ (foldKey key).toList, (d != '_' && d != '-') = true := by
    intro d hd
    obtain ⟨c, -, hc, hd⟩ := mem_foldKey_iff.mp hd
    rw [Bool.and_eq_true, bne_iff_ne, bne_iff_ne]
    -- a mark is the lower case of nothing else
    constructor
    · rintro rfl
      exact hc.1 (Text.eq_of_mem_toLower hd (by decide))
    · rintro rfl
      exact hc.2 (Text.eq_of_mem_toLower hd (by decide))
  have hlower : ∀ d ∈ (foldKey key).toList, Text.toLower d = [d] := by
    intro d hd
    obtain ⟨c, -, -, hd⟩ := mem_foldKey_iff.mp hd
    exact Text.toLower_of_mem_toLower hd
  rw [foldKey, List.filter_eq_self.mpr hmark, List.flatMap_congr hlower, List.flatMap_singleton',
    String.ofList_toList]

/-! ### The member that counts -/

section Prevails

variable {α : Type} {members : List (String × α)} {key : String} {value : α}

/-- Where no key is given twice, the greatest `Prevails`. -/
private theorem Prevails.of_nodup (hnodup : (members.map Prod.fst).Nodup)
    (h : (key, value) ∈ members)
    (hgreatest : ∀ other ∈ members, foldKey other.1 = foldKey key → other.1 ≤ key) :
    Prevails members key value := by
  have hreverse : (members.reverse.map Prod.fst).Nodup := by
    rw [List.map_reverse]
    exact List.nodup_reverse.mpr hnodup
  exact ⟨(find?_eq_some_iff_of_nodup hreverse).mpr ⟨List.mem_reverse.mpr h, rfl⟩, hgreatest⟩

/-- Where no key is given twice, the order does not matter to `Prevails`. -/
theorem Prevails.perm (h : Prevails members key value) {others : List (String × α)}
    (hperm : members.Perm others) (hnodup : (members.map Prod.fst).Nodup) :
    Prevails others key value :=
  .of_nodup ((hperm.map Prod.fst).nodup_iff.mp hnodup) (hperm.mem_iff.mp h.mem)
    fun other hother => h.greatest other (hperm.mem_iff.mpr hother)

end Prevails

namespace Value

/-! ### Values -/

/-- The folding of a value. Under a folded key stands the folding of what was given under the
greatest key with that folded form. -/
inductive FoldsTo : Value → Value → Prop
  | null : FoldsTo .null .null
  | bool (b : Bool) : FoldsTo (.bool b) (.bool b)
  | int (n : Int) : FoldsTo (.int n) (.int n)
  | float (x : Binary64) : FoldsTo (.float x) (.float x)
  | string (text : String) : FoldsTo (.string text) (.string text)
  | array {items folded : List Value} (length_eq : items.length = folded.length)
    (item : ∀ (i : Nat) (h : i < items.length) (h' : i < folded.length),
      FoldsTo items[i] folded[i]) :
    FoldsTo (.array items) (.array folded)
  | object {members folded : List (String × Value)}
    (ascending : (folded.map Prod.fst).Pairwise (· < ·))
    (keys : ∀ name, name ∈ folded.map Prod.fst ↔ ∃ member ∈ members, foldKey member.1 = name)
    (values : ∀ (key : String) (v w : Value), Prevails members key v → (foldKey key, w) ∈ folded →
      FoldsTo v w) :
    FoldsTo (.object members) (.object folded)

mutual

/-- `Value.foldKeys` is what a value `FoldsTo`. -/
private theorem foldsTo_foldKeys : ∀ v : Value, v.FoldsTo v.foldKeys
  | .null => .null
  | .bool b => .bool b
  | .int n => .int n
  | .float x => .float x
  | .string text => .string text
  | .array items => by
    rw [foldKeys, foldItems_eq_map]
    refine .array (List.length_map _).symm fun i h _ => ?_
    rw [List.getElem_map]
    exact foldsTo_of_mem_items items items[i] (List.getElem_mem h)
  | .object members => by
    rw [foldKeys]
    refine .object (pairwise_settle _) (fun name => mem_keys_settle_foldMembers) ?_
    intro key v w hv hw
    obtain ⟨key', v', hfold, hv', rfl⟩ := mem_settle_foldMembers_iff.mp hw
    rw [(hv'.unique hv hfold).2]
    exact foldsTo_of_mem_members members _ hv.mem

theorem foldsTo_of_mem_items : ∀ items : List Value, ∀ item ∈ items, item.FoldsTo item.foldKeys
  | [] => List.forall_mem_nil _
  | item :: rest => List.forall_mem_cons.mpr ⟨item.foldsTo_foldKeys, foldsTo_of_mem_items rest⟩

theorem foldsTo_of_mem_members : ∀ members : List (String × Value), ∀ member ∈ members,
    member.2.FoldsTo member.2.foldKeys
  | [] => List.forall_mem_nil _
  | (_, v) :: rest => List.forall_mem_cons.mpr ⟨v.foldsTo_foldKeys, foldsTo_of_mem_members rest⟩

end

/-- A value `FoldsTo` nothing else. -/
theorem FoldsTo.eq_foldKeys {v w : Value} (h : v.FoldsTo w) : w = v.foldKeys := by
  induction h with
  | null | bool | int | float | string => rfl
  | @array items folded hlength _ ih =>
    rw [foldKeys, foldItems_eq_map, array.injEq]
    refine List.ext_getElem (by rw [List.length_map, hlength]) fun i h _ => ?_
    rw [List.getElem_map]
    exact ih i (hlength ▸ h) h
  | @object members folded hascending hkeys _ ih =>
    rw [foldKeys, object.injEq]
    refine eq_of_pairwise_keys_of_mem_iff hascending (pairwise_settle _) fun ⟨name, w⟩ => ?_
    rw [mem_settle_foldMembers_iff]
    constructor
    · intro hw
      obtain ⟨member, hmember, rfl⟩ := (hkeys name).mp (List.mem_map_of_mem hw)
      obtain ⟨key, v, hfold, hprevails⟩ := exists_prevails hmember
      rw [← hfold] at hw ⊢
      exact ⟨key, v, rfl, hprevails, (ih key v w hprevails hw).symm⟩
    · rintro ⟨key, v, rfl, hprevails, rfl⟩
      have hkey : foldKey key ∈ folded.map Prod.fst := (hkeys _).mpr ⟨_, hprevails.mem, rfl⟩
      obtain ⟨⟨_, w⟩, hw, rfl⟩ := List.mem_map.mp hkey
      rw [← ih key v w hprevails hw]
      exact hw

/-- What a value `FoldsTo` folds to itself. -/
private theorem FoldsTo.self {v w : Value} (h : v.FoldsTo w) : w.FoldsTo w := by
  induction h with
  | null => exact .null
  | bool b => exact .bool b
  | int n => exact .int n
  | float x => exact .float x
  | string text => exact .string text
  | @array items folded hlength _ ih =>
    exact .array rfl fun i h _ => ih i (hlength ▸ h) h
  | @object members folded hascending hkeys _ ih =>
    -- the keys of a folding are folded, so each of them counts
    have hfolded : ∀ member ∈ folded, foldKey member.1 = member.1 := by
      intro member hmember
      obtain ⟨original, -, hfold⟩ := (hkeys member.1).mp (List.mem_map_of_mem hmember)
      rw [← hfold, foldKey_foldKey]
    refine .object hascending (fun name => ?_) fun key w w' hprevails hw' => ?_
    · rw [List.mem_map]
      refine exists_congr fun member => and_congr_right fun hmember => ?_
      rw [hfolded member hmember]
    · have hw := hprevails.mem
      rw [hfolded _ hw] at hw'
      have hsame : w = w' := congrArg Prod.snd
        (List.inj_on_of_nodup_map (nodup_of_pairwise_keys hascending) hw hw' rfl)
      obtain ⟨member, hmember, hname⟩ := (hkeys key).mp (List.mem_map_of_mem hw)
      obtain ⟨key', v, hfold, hv⟩ := exists_prevails hmember
      rw [← hsame]
      refine ih key' v w hv ?_
      rw [hfold, hname]
      exact hw

/-- `Value.foldKeys` does not mind the order of an object in which no key is given twice. -/
private theorem foldKeys_eq_of_perm {members others : List (String × Value)}
    (h : members.Perm others) (hnodup : (members.map Prod.fst).Nodup) :
    (object others).foldKeys = (object members).foldKeys := by
  refine (FoldsTo.eq_foldKeys ?_).symm
  have hmembers := (object members).foldsTo_foldKeys
  rw [foldKeys] at hmembers ⊢
  cases hmembers with
  | object ascending keys values =>
    have hnodup' : (others.map Prod.fst).Nodup := (h.map Prod.fst).nodup_iff.mp hnodup
    refine .object ascending (fun name => (keys name).trans ?_) ?_
    · simp only [h.mem_iff]
    · exact fun key v w hv => values key v w (hv.perm h.symm hnodup')

/-- `Value.foldKeys` keeps plain values and the elements of arrays in their order. An object gets
the folded keys of its members, with the folding of what stands under the greatest spelling of each.
Nothing else fits this. It does not matter in which order the members were written, as long as no
key was written twice, and what is folded already is not changed. -/
theorem foldKeys_keeps_greatest (v : Value) :
    (∀ w, v.FoldsTo w ↔ w = v.foldKeys) ∧
      (∀ members others, v = .object members → members.Perm others →
        (members.map Prod.fst).Nodup → (object others).foldKeys = v.foldKeys) ∧
      v.foldKeys.foldKeys = v.foldKeys := by
  refine ⟨fun w => ⟨FoldsTo.eq_foldKeys, ?_⟩, ?_, ?_⟩
  · rintro rfl
    exact v.foldsTo_foldKeys
  · rintro members others rfl hperm hnodup
    exact foldKeys_eq_of_perm hperm hnodup
  · exact v.foldsTo_foldKeys.self.eq_foldKeys.symm

/-- The members of an object that has one key in three spellings. -/
def threeSpellings : List (String × Value) :=
  [("isEnd", .int 1), ("is_end", .int 2), ("IsEnd", .int 3)]

theorem foldKeys_threeSpellings :
    threeSpellings.Perm threeSpellings.reverse ∧ (threeSpellings.map Prod.fst).Nodup ∧
      (object threeSpellings).foldKeys = .object [("isend", .int 2)] ∧
      (object threeSpellings.reverse).foldKeys = (object threeSpellings).foldKeys := by
  have hperm : threeSpellings.Perm threeSpellings.reverse := (List.reverse_perm _).symm
  have hnodup : (threeSpellings.map Prod.fst).Nodup := by decide
  obtain ⟨-, horder, -⟩ := foldKeys_keeps_greatest (.object threeSpellings)
  exact ⟨hperm, hnodup, by rfl, horder _ _ rfl hperm hnodup⟩

end Value

end Gamebook.Json
