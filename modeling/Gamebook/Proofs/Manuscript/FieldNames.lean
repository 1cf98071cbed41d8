import Gamebook.Proofs.Json.Folding
import Gamebook.Proofs.Manuscript.Naming

/-!
# The names of fields

A key names a field when it folds to the name of the field. Folding knows all letters that have a
lower case, but the names of fields are made of small letters of ASCII. So a key names a field when
it is the name in whatever case and with whatever marks, as the name of an effect is read, and a
key with any other letter names none. This hangs on the names: the Kelvin sign would pass for
a `k`, which none of them has.

* `foldKey_eq_iff_of_isPlainName`: the keys that fold to a name made of such letters.
* `keys_name_fields`: the keys of the fields.
-/

namespace Gamebook

open Json (foldKey mem_foldKey_iff)

/-! ### Keys of plain names -/

/-- A key without the marks `_` and `-`. -/
def unmarked (key : String) : String := .ofList (key.toList.filter fun c => c != '_' && c != '-')

/-- A name is made of small letters of ASCII other than `k`. -/
private def IsPlainName (name : String) : Prop :=
  ∀ c ∈ name.toList, 97 ≤ c.toNat ∧ c.toNat ≤ 122 ∧ c ≠ 'k'

private theorem foldKey_eq_flatMap (key : String) :
    foldKey key = .ofList ((unmarked key).toList.flatMap Text.toLower) := by
  rw [unmarked, String.toList_ofList, foldKey]

/-- A key whose `foldKey` is a plain name is in ASCII. -/
private theorem ascii_of_foldKey {key : String} (h : IsPlainName (foldKey key)) :
    ∀ c ∈ key.toList, c.toNat < 128 := by
  intro c hc
  by_cases hmark : c ≠ '_' ∧ c ≠ '-'
  · -- the lower case of the character is a part of the name
    have hlower : ∀ d ∈ Text.toLower c, 97 ≤ d.toNat ∧ d.toNat ≤ 122 ∧ d ≠ 'k' :=
      fun d hd => h d (mem_foldKey_iff.mpr ⟨c, hc, hmark, hd⟩)
    have hascii : ∀ d ∈ Text.toLower c, d.toNat < 128 := by
      intro d hd
      have hbounds := hlower d hd
      omega
    rcases Text.ascii_or_kelvin hascii with hascii | rfl
    · exact hascii
    · exact absurd rfl (hlower 'k' (by decide)).2.2
  · rw [not_and_or, not_not, not_not] at hmark
    rcases hmark with rfl | rfl <;> decide

private theorem mem_of_mem_unmarked {key : String} {c : Char} (h : c ∈ (unmarked key).toList) :
    c ∈ key.toList := by
  rw [unmarked, String.toList_ofList] at h
  exact List.mem_of_mem_filter h

/-- The keys that fold to a plain name are those that are the name once `unmarked`, up to the case
of letters as in `sameIgnoringCase`. -/
private theorem foldKey_eq_iff_of_isPlainName {key name : String} (hname : IsPlainName name) :
    foldKey key = name ↔ sameIgnoringCase (unmarked key) name = true := by
  have hsmall : ∀ c ∈ name.toList, c.toLower = c := by
    intro c hc
    have hlower := hname c hc
    have hupper : ¬c.isUpper = true := by
      rw [Text.isUpper_iff_toNat]
      omega
    rw [← Char.toNat_inj, Text.toNat_toLower, if_neg hupper]
  rw [sameIgnoringCase, beq_iff_eq, List.map_congr_left hsmall, List.map_id']
  constructor
  · rintro rfl
    have hascii : ∀ c ∈ (unmarked key).toList, c.toNat < 128 :=
      fun c hc => ascii_of_foldKey hname c (mem_of_mem_unmarked hc)
    rw [foldKey_eq_flatMap, String.toList_ofList, Text.flatMap_toLower_of_ascii hascii]
  · intro h
    have hascii : ∀ c ∈ (unmarked key).toList, c.toNat < 128 := by
      intro c hc
      have hlower := hname c.toLower (h ▸ List.mem_map_of_mem hc)
      rw [Text.toNat_toLower] at hlower
      split at hlower <;> omega
    rw [foldKey_eq_flatMap, Text.flatMap_toLower_of_ascii hascii, h, String.ofList_toList]

namespace Manuscript

/-! ### Keys of fields -/

/-- The folded names of the fields of all records. -/
def fieldNames : List String :=
  storyRecord.names ++ sceneRecord.names ++ choiceRecord.names ++ effectRecord.names

private theorem isPlainName_of_mem_fieldNames {name : String} (h : name ∈ fieldNames) :
    IsPlainName name := by
  have hall : fieldNames.all (fun name => name.toList.all fun c =>
      97 ≤ c.toNat && (c.toNat ≤ 122 && c != 'k')) = true := by decide
  intro c hc
  simpa using List.all_eq_true.mp (List.all_eq_true.mp hall name h) c hc

/-- A key names a field when it is the name once `unmarked`, in whatever case of the letters of
ASCII, which is how `sameIgnoringCase` compares the names of effects. A key with a character outside
of ASCII names no field. -/
theorem keys_name_fields (key : String) :
    (∀ name ∈ fieldNames,
      (foldKey key = name ↔ List.Forall₂ IsCaseOf (unmarked key).toList name.toList) ∧
        (foldKey key = name ↔ sameIgnoringCase (unmarked key) name = true)) ∧
      ((∃ c ∈ key.toList, 128 ≤ c.toNat) → foldKey key ∉ fieldNames) := by
  constructor
  · intro name hname
    have hfold : foldKey key = name ↔ sameIgnoringCase (unmarked key) name = true :=
      foldKey_eq_iff_of_isPlainName (isPlainName_of_mem_fieldNames hname)
    exact ⟨hfold.trans sameIgnoringCase_iff, hfold⟩
  · rintro ⟨c, hc, hlarge⟩ hmem
    have hascii := ascii_of_foldKey (isPlainName_of_mem_fieldNames hmem) c hc
    omega

/-- A capital I with a dot does not pass for an `i`. -/
theorem keys_name_fields_isEnd :
    "isend" ∈ fieldNames ∧ foldKey "-Is_END" = "isend" ∧
      List.Forall₂ IsCaseOf (unmarked "-Is_END").toList "isend".toList ∧
      sameIgnoringCase (unmarked "-Is_END") "isend" = true ∧
      (∃ c ∈ "\u0130d".toList, 128 ≤ c.toNat) ∧ foldKey "\u0130d" ∉ fieldNames := by
  have hname : "isend" ∈ fieldNames := by decide
  have hfold : foldKey "-Is_END" = "isend" := by decide
  obtain ⟨hcase, hsame⟩ := (keys_name_fields "-Is_END").1 "isend" hname
  have hdotted : ∃ c ∈ "\u0130d".toList, 128 ≤ c.toNat := ⟨'\u0130', by decide, by decide⟩
  exact ⟨hname, hfold, hcase.mp hfold, hsame.mp hfold, hdotted,
    (keys_name_fields "\u0130d").2 hdotted⟩

end Manuscript

end Gamebook
