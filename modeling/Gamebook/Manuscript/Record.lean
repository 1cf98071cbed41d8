import Gamebook.Error
import Gamebook.Json.Value

/-!
# Records

A record has named fields, the first of which must be given. It is written as an object, in
which other members are passed over, or as an array of its fields in their order, which may stop
early. The fields that are given are read in the order in which they stand.

* `Record.read` reads a record in either way.
* `Record.enterMember_of_notMem`: other members are passed over.
-/

namespace Gamebook.Manuscript

open Json (Value)

/-! ### Plain values -/

/-- The fault of a `value` that stands where another sort of value is expected. -/
def mismatch {α : Type} (value : Value) (expected : String) : Except ShapeFault α :=
  .error (.wrongType value.describe expected)

/-- Reads a text. -/
def readText : Value → Except ShapeFault String
  | .string text => .ok text
  | value => mismatch value "a string"

/-- Reads a text or null. -/
def readOptionalText : Value → Except ShapeFault (Option String)
  | .null => .ok none
  | .string text => .ok (some text)
  | value => mismatch value "a string"

/-- Reads a truth value. -/
def readBool : Value → Except ShapeFault Bool
  | .bool value => .ok value
  | value => mismatch value "a boolean"

/-- The name of the numbers of choices in messages. -/
def numberName : String := "u32"

/-- Reads an integer from zero on that fits 32 bits. -/
def readNumber : Value → Except ShapeFault UInt32
  | .int n =>
    if h : n.toNat < UInt32.size then
      if 0 ≤ n then .ok (UInt32.ofNatLT n.toNat h) else .error (.outOfRange n numberName)
    else .error (.outOfRange n numberName)
  | value => mismatch value numberName

/-- Reads the elements of an array in order, each with `read`. -/
def readList {α : Type} (read : Value → Except ShapeFault α) : Value → Except ShapeFault (List α)
  | .array items => items.mapM read
  | value => mismatch value "a sequence"

/-! ### Fields and records -/

/-- One field of a `Record`: its folded name, and how a value is entered into the record. -/
structure Field (ρ : Type) where
  name : String
  enter : Value → ρ → Except ShapeFault ρ

/-- The `Field` with a name that is set to what a reader makes of a value. -/
def Field.of {ρ α : Type} (name : String) (read : Value → Except ShapeFault α)
    (set : α → ρ → ρ) : Field ρ :=
  ⟨name, fun value draft => (set · draft) <$> read value⟩

/-- The form of a record: each `Field` in order, and the record before any of them is entered. -/
structure Record (ρ : Type) where
  /-- The record in the words of a message. -/
  title : String
  /-- The field that must be given, which is the first. -/
  required : Field ρ
  /-- The other fields in their order. -/
  others : List (Field ρ)
  /-- The record before any field is entered. -/
  blank : ρ

/-- Some member has a key when the key is among the keys. -/
theorem any_key_iff {α : Type} {members : List (String × α)} {name : String} :
    members.any (·.1 == name) = true ↔ name ∈ members.map Prod.fst := by
  simp only [List.any_eq_true, beq_iff_eq, List.mem_map]

namespace Record

variable {ρ : Type}

/-- All fields of a `Record` in their order. -/
def fields (record : Record ρ) : List (Field ρ) := record.required :: record.others

/-- Enters a member of an object into the `Field` that its key names. A member that is no field is
passed over. -/
def enterMember (record : Record ρ) (draft : ρ) (member : String × Value) :
    Except ShapeFault ρ :=
  match record.fields.find? (·.name == member.1) with
  | some field => field.enter member.2 draft
  | none => .ok draft

/-- Enters an element of an array into the `Field` at its place. -/
def enterItem (draft : ρ) (item : Field ρ × Value) : Except ShapeFault ρ :=
  item.1.enter item.2 draft

/-- Reads a record: an object by `Record.enterMember`, an array by `Record.enterItem`. -/
def read (record : Record ρ) : Value → Except ShapeFault ρ
  | .object members => do
    let draft ← members.foldlM record.enterMember record.blank
    if members.any (·.1 == record.required.name) then return draft
    else throw (.missingField record.required.name)
  | .array items =>
    if items.isEmpty then .error (.tooFew record.title record.fields.length)
    else do
      let draft ← (record.fields.zip items).foldlM enterItem record.blank
      if record.fields.length < items.length then throw (.tooMany items.length)
      else return draft
  | value => mismatch value record.title

/-- The names of all `Record.fields`. -/
def names (record : Record ρ) : List String := record.fields.map (·.name)

/-- A member whose key is none of the `Record.names` is passed over. -/
theorem enterMember_of_notMem {record : Record ρ} {draft : ρ} {member : String × Value}
    (h : member.1 ∉ record.names) : record.enterMember draft member = .ok draft := by
  have hnone : record.fields.find? (·.name == member.1) = none := by
    rw [List.find?_eq_none]
    intro field hmem heq
    exact h (List.mem_map.mpr ⟨field, hmem, eq_of_beq heq⟩)
  rw [enterMember, hnone]

end Record

end Gamebook.Manuscript
