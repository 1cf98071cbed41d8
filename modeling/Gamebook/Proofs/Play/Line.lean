import Gamebook.Selection
import Gamebook.Transcript

/-!
# Lines of input

An input is cut into lines as bytes, before anything is known of its text. In the UTF-8 form of a
text the byte of a line feed stands for nothing else (`lineFeed_notMem_utf8EncodeChar`), so no cut
falls within a character, and every line of a text is a text
(`isSome_decodeText?_of_mem_splitLines`).

* `isSome_decodeText?_iff`: the bytes that are the form of a text.
* `splitLines_append`: bytes without a line feed join the line that follows them.
* `splitLines_eq_iff`: the lines of an input, without the recursion that cuts it.
-/

namespace Gamebook

/-! ### The bytes of a text -/

/-- `decodeText?` reads the UTF-8 form of a list of characters back as its text. -/
theorem decodeText?_flatMap (cs : List Char) :
    decodeText? (cs.flatMap String.utf8EncodeChar) = some (.ofList cs) := by
  have hbytes : ByteArray.mk (cs.flatMap String.utf8EncodeChar).toArray =
      (String.ofList cs).toByteArray :=
    ByteArray.ext List.data_toByteArray.symm
  rw [decodeText?, hbytes, String.fromUTF8?, dif_pos (String.ofList cs).isValidUTF8]
  rfl

/-- `decodeText?` succeeds exactly for UTF-8 forms of characters put together. -/
theorem isSome_decodeText?_iff {bytes : List UInt8} :
    (decodeText? bytes).isSome = true ↔
      ∃ cs : List Char, bytes = cs.flatMap String.utf8EncodeChar := by
  constructor
  · intro h
    rw [decodeText?, String.fromUTF8?] at h
    split at h
    · next hvalid =>
      obtain ⟨cs, hcs⟩ := hvalid
      refine ⟨cs, ?_⟩
      have hdata := congrArg (fun b => b.data.toList) hcs
      simpa only [List.utf8Encode, List.data_toByteArray] using hdata
    · exact absurd h (by simp)
  · rintro ⟨cs, rfl⟩
    rw [decodeText?_flatMap]
    rfl

/-- A character other than the line feed is written without the byte of a line feed. -/
theorem lineFeed_notMem_utf8EncodeChar {c : Char} (h : c ≠ '\n') :
    (10 : UInt8) ∉ String.utf8EncodeChar c := by
  have hcode : c.val.toNat ≠ 10 := fun heq => h (Char.ext (UInt32.toNat_inj.mp heq))
  have hbyte : ∀ n : Nat, n % 256 ≠ 10 → (10 : UInt8) ≠ UInt8.ofNat n := by
    intro n hn heq
    have hmod := congrArg UInt8.toNat heq
    rw [UInt8.toNat_ofNat'] at hmod
    exact hn hmod.symm
  rw [String.utf8EncodeChar]
  -- one character takes one to four bytes; all bytes of the longer forms lie above ASCII
  split
  · simp only [List.mem_singleton]
    exact hbyte _ (by omega)
  · split
    · simp only [List.mem_cons, List.not_mem_nil, or_false, not_or]
      exact ⟨hbyte _ (by omega), hbyte _ (by omega)⟩
    · split
      · simp only [List.mem_cons, List.not_mem_nil, or_false, not_or]
        exact ⟨hbyte _ (by omega), hbyte _ (by omega), hbyte _ (by omega)⟩
      · simp only [List.mem_cons, List.not_mem_nil, or_false, not_or]
        exact ⟨hbyte _ (by omega), hbyte _ (by omega), hbyte _ (by omega), hbyte _ (by omega)⟩

/-! ### Cutting bytes into lines -/

/-- In `splitLines` bytes without a line feed join the line that follows them, or are a line by
themselves. -/
theorem splitLines_append {bytes rest : List UInt8} (hne : bytes ≠ [])
    (hnone : (10 : UInt8) ∉ bytes) :
    splitLines (bytes ++ rest) =
      (bytes ++ (splitLines rest).headD []) :: (splitLines rest).tail := by
  induction bytes with
  | nil => exact absurd rfl hne
  | cons byte more ih =>
    rw [List.mem_cons, not_or] at hnone
    rw [List.cons_append, splitLines, if_neg (Ne.symm hnone.1)]
    by_cases hmore : more = []
    · subst hmore
      cases hrest : splitLines rest <;> simp [hrest]
    · rw [ih hmore hnone.2]
      rfl

/-- Bytes without a line feed are one line of `splitLines`. -/
private theorem splitLines_of_notMem {bytes : List UInt8} (hne : bytes ≠ [])
    (hnone : (10 : UInt8) ∉ bytes) : splitLines bytes = [bytes] := by
  have hsplit : splitLines (bytes ++ []) = _ := splitLines_append hne hnone
  rwa [List.append_nil, splitLines, List.headD_nil, List.tail_nil, List.append_nil] at hsplit

/-- Bytes up to the first line feed are a line of `splitLines`. -/
private theorem splitLines_append_cons {bytes rest : List UInt8} (hnone : (10 : UInt8) ∉ bytes) :
    splitLines (bytes ++ 10 :: rest) = (bytes ++ [10]) :: splitLines rest := by
  by_cases hnil : bytes = []
  · rw [hnil, List.nil_append, splitLines, if_pos rfl, List.nil_append]
  · rw [splitLines_append hnil hnone, splitLines, if_pos rfl, List.headD_cons, List.tail_cons]

/-- No line of `splitLines` is empty, and none has a line feed before its end. -/
theorem shape_of_mem_splitLines {bytes line : List UInt8} (h : line ∈ splitLines bytes) :
    line ≠ [] ∧ (10 : UInt8) ∉ line.dropLast := by
  induction bytes generalizing line with
  | nil => exact absurd h List.not_mem_nil
  | cons byte rest ih =>
    rw [splitLines] at h
    split at h
    · rcases List.mem_cons.mp h with rfl | hmem
      · simp
      · exact ih hmem
    · next hbyte =>
      cases hrest : splitLines rest with
      | nil =>
        rw [hrest, List.mem_singleton] at h
        simp [h]
      | cons first others =>
        rw [hrest] at h ih
        rcases List.mem_cons.mp h with rfl | hmem
        · obtain ⟨hfirst, hnone⟩ := ih List.mem_cons_self
          rw [List.dropLast_cons_of_ne_nil hfirst, List.mem_cons, not_or]
          exact ⟨List.cons_ne_nil byte first, Ne.symm hbyte, hnone⟩
        · exact ih (List.mem_cons_of_mem _ hmem)

/-- All lines of `splitLines` but the last end with a line feed. -/
theorem getLast?_of_mem_dropLast_splitLines {bytes line : List UInt8}
    (h : line ∈ (splitLines bytes).dropLast) : line.getLast? = some 10 := by
  induction bytes generalizing line with
  | nil => exact absurd h List.not_mem_nil
  | cons byte rest ih =>
    rw [splitLines] at h
    cases hrest : splitLines rest with
    | nil =>
      rw [hrest] at h
      split at h <;> exact absurd h (by simp)
    | cons first others =>
      rw [hrest] at h ih
      split at h
      · next hbyte =>
        rw [List.dropLast_cons_cons, List.mem_cons] at h
        rcases h with rfl | hmem
        · rw [hbyte, List.getLast?_singleton]
        · exact ih hmem
      · cases others with
        | nil => exact absurd h (by simp)
        | cons second more =>
          simp only [List.dropLast_cons_cons, List.mem_cons] at h ih
          rcases h with rfl | hmem
          · rw [List.getLast?_cons, ih (Or.inl rfl), Option.getD_some]
          · exact ih (Or.inr hmem)

/-- Lines of which none is empty, none has a line feed before its end, and all but the last end with
one, are what `splitLines` makes of them put together. -/
private theorem splitLines_flatten {lines : List (List UInt8)}
    (hshape : ∀ line ∈ lines, line ≠ [] ∧ (10 : UInt8) ∉ line.dropLast)
    (hlast : ∀ line ∈ lines.dropLast, line.getLast? = some 10) :
    splitLines lines.flatten = lines := by
  induction lines with
  | nil => rfl
  | cons line more ih =>
    rw [List.forall_mem_cons] at hshape
    obtain ⟨⟨hne, hnone⟩, hmore⟩ := hshape
    have hline : line.dropLast ++ [line.getLast hne] = line := List.dropLast_concat_getLast hne
    by_cases hfeed : line.getLast hne = 10
    · have hrest : splitLines more.flatten = more := by
        refine ih hmore fun other hother => hlast other ?_
        cases more with
        | nil => exact absurd hother List.not_mem_nil
        | cons second others => exact List.mem_cons_of_mem line hother
      rw [hfeed] at hline
      rw [List.flatten_cons, ← hline, List.append_assoc, List.singleton_append,
        splitLines_append_cons hnone, hrest]
    · -- a line without a line feed at its end is the last one
      have hmore : more = [] := by
        cases more with
        | nil => rfl
        | cons second others =>
          have hend := hlast line List.mem_cons_self
          rw [List.getLast?_eq_some_getLast hne] at hend
          exact absurd (Option.some.inj hend) hfeed
      have hfree : (10 : UInt8) ∉ line := by
        rw [← hline, List.mem_append, List.mem_singleton, not_or]
        exact ⟨hnone, Ne.symm hfeed⟩
      rw [hmore, List.flatten_cons, List.flatten_nil, List.append_nil,
        splitLines_of_notMem hne hfree]

/-- `splitLines` cuts an input into the only lines that make it up of which none is empty, none has
a line feed before its end, and all but the last end with one. -/
theorem splitLines_eq_iff {bytes : List UInt8} {lines : List (List UInt8)} :
    splitLines bytes = lines ↔ lines.flatten = bytes ∧
      (∀ line ∈ lines, line ≠ [] ∧ (10 : UInt8) ∉ line.dropLast) ∧
        ∀ line ∈ lines.dropLast, line.getLast? = some 10 := by
  constructor
  · rintro rfl
    exact ⟨flatten_splitLines, fun _ => shape_of_mem_splitLines,
      fun _ => getLast?_of_mem_dropLast_splitLines⟩
  · rintro ⟨rfl, hshape, hlast⟩
    exact splitLines_flatten hshape hlast

/-- Of characters put together `splitLines` makes characters put together. -/
private theorem exists_of_mem_splitLines {cs : List Char} {line : List UInt8}
    (h : line ∈ splitLines (cs.flatMap String.utf8EncodeChar)) :
    ∃ ds : List Char, line = ds.flatMap String.utf8EncodeChar := by
  induction cs generalizing line with
  | nil => exact absurd h List.not_mem_nil
  | cons c rest ih =>
    rw [List.flatMap_cons] at h
    by_cases hc : c = '\n'
    · have hfeed : String.utf8EncodeChar c = [10] := by rw [hc]; rfl
      rw [hfeed, List.singleton_append, splitLines, if_pos rfl, List.mem_cons] at h
      rcases h with rfl | hmem
      · exact ⟨['\n'], rfl⟩
      · exact ih hmem
    · have hne : String.utf8EncodeChar c ≠ [] := by
        rw [← List.length_pos_iff, String.length_utf8EncodeChar]
        exact c.utf8Size_pos
      rw [splitLines_append hne (lineFeed_notMem_utf8EncodeChar hc)] at h
      cases hrest : splitLines (rest.flatMap String.utf8EncodeChar) with
      | nil =>
        rw [hrest, List.tail_nil, List.mem_singleton] at h
        exact ⟨[c], h⟩
      | cons first others =>
        rw [hrest] at h ih
        rcases List.mem_cons.mp h with rfl | hmem
        · obtain ⟨ds, rfl⟩ := ih List.mem_cons_self
          exact ⟨c :: ds, rfl⟩
        · exact ih (List.mem_cons_of_mem _ hmem)

/-- Every line of a text is a text for `decodeText?`. -/
theorem isSome_decodeText?_of_mem_splitLines {input line : List UInt8}
    (h : (decodeText? input).isSome = true) (hline : line ∈ splitLines input) :
    (decodeText? line).isSome = true := by
  obtain ⟨cs, rfl⟩ := isSome_decodeText?_iff.mp h
  exact isSome_decodeText?_iff.mpr (exists_of_mem_splitLines hline)

/-! ### The number that a line gives -/

/-- The number that a line of input selects, if the line is a text that gives one. -/
def typed? (line : List UInt8) : Option UInt32 := (decodeText? line).bind Selection.ofText?

/-- The `typed?` number of a line that is a text is the number of the text. -/
theorem typed?_of_decodeText? {line : List UInt8} {text : String}
    (h : decodeText? line = some text) : typed? line = Selection.ofText? text := by
  rw [typed?, h, Option.bind_some]

end Gamebook
