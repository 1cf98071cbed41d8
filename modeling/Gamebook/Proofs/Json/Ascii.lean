import Gamebook.Proofs.Json.Written

/-!
# Strings in ASCII

A text can be written with the characters of ASCII alone: what is no printable character of ASCII,
and quotes and backslashes, are given by the units of UTF-16, each as a code of four hexadecimal
digits. A character above U+FFFF has two units, the halves of a surrogate pair.

Reading such a text is not the inverse of writing it. The halves of a pair are put together with a
bitwise *or*, and the bit `0x10000`, which a pair adds, has no effect where the first half gives it
already. This is so for the characters of every second plane, U+20000 to U+2FFFF first, and each of
them is read as the character with the same place in the plane before. All others are read as they
are.

* `units` and `CodedAs`: the units of a character and how a character is written.
* `decode_units`: the units of a character are read as `recoded`.
* `Value.IsCodedAs.isIn`: a text in ASCII stands for the value with its texts recoded.
-/

namespace Gamebook.Json

/-! ### Units of UTF-16 -/

/-- The units of UTF-16 of a character. -/
def units (c : Char) : List UInt16 :=
  if c.toNat < 0x10000 then [.ofNat c.toNat]
  else
    [.ofNat (0xD800 + (c.toNat - 0x10000) / 0x400), .ofNat (0xDC00 + (c.toNat - 0x10000) % 0x400)]

/-- Whether a character has a pair whose first half gives the bit `0x10000`. Such are the characters
of the planes 2, 4 and so on up to 16. -/
def losesPlane (c : Char) : Bool := 0x10000 ≤ c.toNat && c.toNat / 0x10000 % 2 == 0

/-- The character that is read where a character is written by its `units`. -/
def recoded (c : Char) : Char := if losesPlane c then .ofNat (c.toNat - 0x10000) else c

/-- The text that is read where a text is written in ASCII, with each character `recoded`. -/
def recodedText (text : String) : String := .ofList (text.toList.map recoded)

private theorem losesPlane_iff {c : Char} :
    losesPlane c = true ↔ 0x10000 ≤ c.toNat ∧ c.toNat / 0x10000 % 2 = 0 := by
  rw [losesPlane, Bool.and_eq_true, decide_eq_true_eq, beq_iff_eq]

/-- A character that is read as another one is read one plane lower. -/
private theorem toNat_recoded {c : Char} (h : losesPlane c = true) :
    (recoded c).toNat = c.toNat - 0x10000 := by
  have hvalid : c.toNat < 0xD800 ∨ 0xDFFF < c.toNat ∧ c.toNat < 0x110000 := c.valid
  obtain ⟨hlarge, heven⟩ := losesPlane_iff.mp h
  rw [recoded, if_pos h, Char.ofNat, dif_pos (by simp only [Nat.isValidChar]; omega)]
  rfl

/-- What is `recoded` loses no plane again. -/
private theorem losesPlane_recoded (c : Char) : losesPlane (recoded c) = false := by
  cases hloses : losesPlane c with
  | false => rw [recoded, if_neg (by simp [hloses]), hloses]
  | true =>
    rw [Bool.eq_false_iff, ne_eq, losesPlane_iff, toNat_recoded hloses]
    rw [losesPlane_iff] at hloses
    omega

private theorem recoded_eq_self_iff {c : Char} : recoded c = c ↔ losesPlane c = false := by
  constructor
  · intro h
    rw [← h]
    exact losesPlane_recoded c
  · intro h
    rw [recoded, if_neg (by simp [h])]

theorem map_eq_self_iff {α : Type} {f : α → α} {l : List α} :
    l.map f = l ↔ ∀ a ∈ l, f a = a := by
  have hid : l.map f = l.map id ↔ ∀ a ∈ l, f a = id a := List.map_inj_left
  rwa [List.map_id] at hid

/-- `recodedText` leaves a text alone exactly if it leaves each of its characters alone. -/
theorem recodedText_eq_self_iff {text : String} :
    recodedText text = text ↔ ∀ c ∈ text.toList, losesPlane c = false := by
  rw [← String.toList_inj, recodedText, String.toList_ofList, map_eq_self_iff]
  exact forall₂_congr fun c _ => recoded_eq_self_iff

/-- `recodedText` changes nothing more in what it gave. -/
theorem recodedText_recodedText (text : String) :
    recodedText (recodedText text) = recodedText text := by
  rw [recodedText_eq_self_iff, recodedText, String.toList_ofList, List.forall_mem_map]
  exact fun c _ => losesPlane_recoded c

/-- The bit that a pair adds has no effect where the first half gives it. -/
private theorem or_eq {high low : Nat} (hhigh : high < 1024) (hlow : low < 1024) :
    (high <<< 10) ||| (low + 0x10000) =
      if high / 64 % 2 = 1 then high * 1024 + low else high * 1024 + low + 0x10000 := by
  have hbit : ∀ high < 1024, high ||| 64 = if high / 64 % 2 = 1 then high else high + 64 := by
    decide +kernel
  -- the added bit is one of the first half, and the second half lies below
  have hadded : low + 0x10000 = 64 <<< 10 ||| low := by
    rw [← Nat.shiftLeft_add_eq_or_of_lt hlow]
    omega
  rw [hadded, ← Nat.or_assoc, ← Nat.shiftLeft_or_distrib, hbit high hhigh,
    ← Nat.shiftLeft_add_eq_or_of_lt hlow, Nat.shiftLeft_eq]
  split <;> omega

/-- The halves of the pair of a character are put together to the `recoded` character. -/
private theorem ofNat_or_eq {c : Char} {high low : Nat} (hhigh : high < 1024) (hlow : low < 1024)
    (hc : c.toNat = high * 1024 + low + 0x10000) :
    Char.ofNat ((high <<< 10) ||| (low + 0x10000)) = recoded c := by
  have hplane : losesPlane c = true ↔ high / 64 % 2 = 1 := by
    rw [losesPlane_iff]
    omega
  rw [or_eq hhigh hlow, recoded]
  by_cases hbit : high / 64 % 2 = 1
  · rw [if_pos hbit, if_pos (hplane.mpr hbit), hc, Nat.add_sub_cancel]
  · rw [if_neg hbit, if_neg (mt hplane.mp hbit), ← hc, Char.ofNat_toNat]

private theorem isTrail_iff {code : Nat} : isTrail code = true ↔ 0xDC00 ≤ code ∧ code ≤ 0xDFFF := by
  rw [isTrail, Bool.and_eq_true, decide_eq_true_eq, decide_eq_true_eq]

private theorem isLead_iff {code : UInt16} :
    isLead code = true ↔ 0xD800 ≤ code.toNat ∧ code.toNat ≤ 0xDBFF := by
  rw [isLead, Bool.and_eq_true, decide_eq_true_eq, decide_eq_true_eq, UInt16.le_iff_toNat_le,
    UInt16.le_iff_toNat_le]
  rfl

private theorem toNat_unit {n : Nat} (h : n < 0x10000) : (UInt16.ofNat n).toNat = n :=
  UInt16.toNat_ofNat_of_lt' h

/-- `Piece.decode` reads a unit that is no half of a pair as its character. -/
private theorem decode_unit {code : UInt16} (h : code.toNat < 0xD800 ∨ 0xDFFF < code.toNat)
    (rest : List Piece) :
    Piece.decode (.unit code :: rest) = (Char.ofNat code.toNat :: ·) <$> Piece.decode rest := by
  have htrail : isTrail code.toNat = false := by
    rw [Bool.eq_false_iff, ne_eq, isTrail_iff]
    omega
  have hlead : isLead code = false := by
    rw [Bool.eq_false_iff, ne_eq, isLead_iff]
    omega
  rw [Piece.decode.eq_def]
  dsimp only
  rw [htrail, hlead]
  rfl

/-- `Piece.decode` reads the halves of a pair as one character. -/
private theorem decode_pair {high low : Nat} (hhigh : high < 1024) (hlow : low < 1024)
    (rest : List Piece) :
    Piece.decode (.unit (.ofNat (0xD800 + high)) :: .unit (.ofNat (0xDC00 + low)) :: rest) =
      (Char.ofNat ((high <<< 10) ||| (low + 0x10000)) :: ·) <$> Piece.decode rest := by
  have hfirst : (UInt16.ofNat (0xD800 + high)).toNat = 0xD800 + high := toNat_unit (by omega)
  have hsecond : (UInt16.ofNat (0xDC00 + low)).toNat = 0xDC00 + low := toNat_unit (by omega)
  have hnot : isTrail (0xD800 + high) = false := by
    rw [Bool.eq_false_iff, ne_eq, isTrail_iff]
    omega
  have hlead : isLead (.ofNat (0xD800 + high)) = true := by
    rw [isLead_iff, hfirst]
    omega
  have htrail : isTrail (0xDC00 + low) = true := by
    rw [isTrail_iff]
    omega
  rw [Piece.decode.eq_def]
  dsimp only [Piece.hexValue?]
  rw [hfirst, hnot, hlead, hsecond, htrail, pairChar, hfirst, Nat.add_sub_cancel_left,
    Nat.add_sub_cancel_left]
  rfl

/-- `Piece.decode` reads the `units` of a character as one character. -/
private theorem decode_units (c : Char) (rest : List Piece) :
    Piece.decode ((units c).map .unit ++ rest) = (recoded c :: ·) <$> Piece.decode rest := by
  have hvalid : c.toNat < 0xD800 ∨ 0xDFFF < c.toNat ∧ c.toNat < 0x110000 := c.valid
  rw [units]
  split
  · next hsmall =>
    have hkeeps : losesPlane c = false := by
      rw [Bool.eq_false_iff, ne_eq, losesPlane_iff]
      omega
    have hcode := toNat_unit hsmall
    rw [List.map_singleton, List.singleton_append, decode_unit (by omega), hcode,
      Char.ofNat_toNat, recoded_eq_self_iff.mpr hkeeps]
  · next hlarge =>
    generalize hcode : c.toNat - 0x10000 = code
    have hhigh : code / 0x400 < 1024 := by omega
    have hlow : code % 0x400 < 1024 := by omega
    have hc : c.toNat = code / 0x400 * 1024 + code % 0x400 + 0x10000 := by omega
    rw [List.map_cons, List.map_singleton, List.cons_append, List.singleton_append,
      decode_pair hhigh hlow, ofNat_or_eq hhigh hlow hc]

/-! ### Writing strings -/

/-- Whether a character may stand for itself: it is printable and of ASCII, and neither a quote nor
a backslash. -/
def isPlain (c : Char) : Bool := 0x20 ≤ c.toNat && c.toNat ≤ 0x7E && c != '"' && c != '\\'

private theorem losesPlane_of_isPlain {c : Char} (h : isPlain c = true) : losesPlane c = false := by
  simp only [isPlain, Bool.and_eq_true, decide_eq_true_eq] at h
  rw [Bool.eq_false_iff, ne_eq, losesPlane_iff]
  omega

/-- `recodedText` leaves a text alone whose characters may all stand for themselves. -/
theorem recodedText_of_isPlain {text : String} (h : text.toList.all isPlain = true) :
    recodedText text = text := by
  rw [List.all_eq_true] at h
  exact recodedText_eq_self_iff.mpr fun c hc => losesPlane_of_isPlain (h c hc)

/-- A character is the hexadecimal digit of a number, a small or a capital letter from ten on. -/
def IsDigit (d : Nat) (c : Char) : Prop := d < 16 ∧ (c = d.digitChar ∨ c = d.digitChar.toUpper)

instance {d : Nat} {c : Char} : Decidable (IsDigit d c) := inferInstanceAs (Decidable (_ ∧ _))

/-- The characters `cs` are the code of a unit, a backslash and a letter before four hexadecimal
digits. -/
def IsCode (unit : UInt16) (cs : List Char) : Prop :=
  ∃ d₃ d₂ d₁ d₀ x y z w,
    (IsDigit d₃ x ∧ IsDigit d₂ y ∧ IsDigit d₁ z ∧ IsDigit d₀ w ∧
      unit.toNat = 0x1000 * d₃ + 0x100 * d₂ + 0x10 * d₁ + d₀) ∧
    cs = ['\\', 'u', x, y, z, w]

/-- A character is written in ASCII, by itself if `isPlain` and else by the codes of its `units`. -/
inductive CodedAs (c : Char) : List Char → Prop
  | plain (h : isPlain c = true) : CodedAs c [c]
  | codes {codes : List (List Char)} (h : isPlain c = false)
    (hcodes : List.Forall₂ IsCode (units c) codes) : CodedAs c codes.flatten

/-- The pieces that are read where a character is `CodedAs` something. -/
private def codedPieces (c : Char) : List Piece :=
  if isPlain c then [.plain c] else (units c).map .unit

private theorem IsDigit.hexDigit?_eq {d : Nat} {c : Char} (h : IsDigit d c) :
    hexDigit? c = some d := by
  have hsmall : ∀ d < 16, hexDigit? d.digitChar = some d := by decide
  have hcapital : ∀ d < 16, hexDigit? d.digitChar.toUpper = some d := by decide
  obtain ⟨hd, rfl | rfl⟩ := h
  · exact hsmall d hd
  · exact hcapital d hd

/-- `readPieces` reads a code as its unit. -/
private theorem readPieces_code {unit : UInt16} {cs : List Char} (h : IsCode unit cs)
    (rest : List Char) :
    readPieces '"' (cs ++ rest) =
      (readPieces '"' rest).map fun (pieces, after) => (.unit unit :: pieces, after) := by
  obtain ⟨d₃, d₂, d₁, d₀, x, y, z, w, ⟨hx, hy, hz, hw, hunit⟩, rfl⟩ := h
  have hvalue : hexValue? [x, y, z, w] = some unit.toNat := by
    have hsum : 16 * (16 * (16 * (16 * 0 + d₃) + d₂) + d₁) + d₀ = unit.toNat := by omega
    simp only [hexValue?, List.foldlM_cons, List.foldlM_nil, hx.hexDigit?_eq, hy.hexDigit?_eq,
      hz.hexDigit?_eq, hw.hexDigit?_eq, Option.map_some, Option.bind_eq_bind, Option.bind_some,
      hsum]
    rfl
  change readPieces '"' ('\\' :: 'u' :: x :: y :: z :: w :: rest) = _
  rw [readPieces.eq_def]
  simp only [hvalue, UInt16.ofNat_toNat]
  rfl

/-- `readPieces` reads a character that may stand for itself as it stands. -/
private theorem readPieces_plain {c : Char} (h : isPlain c = true) (rest : List Char) :
    readPieces '"' (c :: rest) =
      (readPieces '"' rest).map fun (pieces, after) => (.plain c :: pieces, after) := by
  simp only [isPlain, Bool.and_eq_true, decide_eq_true_eq, bne_iff_ne] at h
  obtain ⟨⟨⟨hlow, hhigh⟩, hquote⟩, hslash⟩ := h
  have hend : isLineEnd c = false := by
    have hne : ∀ d : Char, ¬(0x20 ≤ d.toNat ∧ d.toNat ≤ 0x7E) → (c == d) = false := by
      rintro d hd
      refine beq_eq_false_iff_ne.mpr ?_
      rintro rfl
      exact hd ⟨hlow, hhigh⟩
    rw [isLineEnd, hne _ (by decide), hne _ (by decide), hne _ (by decide), hne _ (by decide)]
    rfl
  rw [readPieces.eq_def]
  dsimp only
  rw [if_neg hquote, if_neg (by simp [hend]), if_pos hslash]

/-- `readPieces` reads the codes of units as the units. -/
private theorem readPieces_codes {units : List UInt16} {codes : List (List Char)}
    (h : List.Forall₂ IsCode units codes) (rest : List Char) :
    readPieces '"' (codes.flatten ++ rest) =
      (readPieces '"' rest).map fun (pieces, after) => (units.map .unit ++ pieces, after) := by
  induction h with
  | nil => exact Option.map_id'.symm
  | cons hcode _ ih =>
    rw [List.flatten_cons, List.append_assoc, readPieces_code hcode, ih, Option.map_map]
    rfl

/-- `readPieces` reads a character that is `CodedAs` some text as its `codedPieces`. -/
private theorem CodedAs.readPieces {c : Char} {cs : List Char} (h : CodedAs c cs)
    (rest : List Char) : readPieces '"' (cs ++ rest) =
      (readPieces '"' rest).map fun (pieces, after) => (codedPieces c ++ pieces, after) := by
  cases h with
  | plain h => rw [List.singleton_append, readPieces_plain h, codedPieces, if_pos h]; rfl
  | codes h hcodes => rw [readPieces_codes hcodes, codedPieces, if_neg (by simp [h])]

/-- `readPieces` reads a string that is written in ASCII to its end. -/
private theorem readPieces_coded {cs : List Char} {parts : List (List Char)}
    (h : List.Forall₂ CodedAs cs parts) (rest : List Char) :
    readPieces '"' (parts.flatten ++ '"' :: rest) = some (cs.flatMap codedPieces, rest) := by
  induction h with
  | nil => exact readPieces.eq_def _ _
  | cons hcoded _ ih =>
    rw [List.flatten_cons, List.append_assoc, hcoded.readPieces, ih]
    rfl

/-- The `codedPieces` of a character stand for the `recoded` character. -/
private theorem decode_codedPieces (c : Char) (rest : List Piece) :
    Piece.decode (codedPieces c ++ rest) = (recoded c :: ·) <$> Piece.decode rest := by
  rw [codedPieces]
  split
  · next hplain =>
    rw [recoded_eq_self_iff.mpr (losesPlane_of_isPlain hplain)]
    exact Piece.decode.eq_def _
  · exact decode_units c rest

/-- The pieces that are read of a string in ASCII, given those of its usual form, in which each is a
`pieceOf` a character. -/
private def recode (pieces : List Piece) : List Piece :=
  match Piece.decode pieces with
  | .ok cs => cs.flatMap codedPieces
  | .error _ => pieces

/-- `recode` gives the `codedPieces` of the characters of a string. -/
private theorem recode_map_pieceOf (text : String) :
    recode (text.toList.map pieceOf) = text.toList.flatMap codedPieces := by
  rw [recode, decode_map_pieceOf]

/-- The pieces that `recode` gives stand for the `recodedText`. -/
private theorem text_recode (text : String) :
    Piece.text (recode (text.toList.map pieceOf)) = .ok (recodedText text) := by
  have hdecode : ∀ cs : List Char,
      Piece.decode (cs.flatMap codedPieces) = .ok (cs.map recoded) := by
    intro cs
    induction cs with
    | nil => exact Piece.decode.eq_def _
    | cons c more ih =>
      rw [List.flatMap_cons, decode_codedPieces, ih]
      rfl
  rw [recode_map_pieceOf, Piece.text, hdecode]
  rfl

/-! ### Texts -/

/-- A `Token` is written in ASCII. -/
inductive Token.CodedAs : Token → List Char → Prop
  | string (text : String) {parts : List (List Char)}
    (h : List.Forall₂ Json.CodedAs text.toList parts) :
    CodedAs (.string (text.toList.map pieceOf)) ('"' :: (parts.flatten ++ ['"']))
  | other {token : Token} {cs : List Char} (h : token.SpelledAs cs)
    (hother : ∀ pieces, token ≠ .string pieces) : CodedAs token cs

/-- A string whose characters are all `isPlain` is written as it is. -/
theorem Token.CodedAs.plain (text : String) (h : text.toList.all isPlain = true) :
    Token.CodedAs (.string (text.toList.map pieceOf)) ('"' :: (text.toList ++ ['"'])) := by
  have hparts : List.Forall₂ Json.CodedAs text.toList (text.toList.map ([·])) := by
    rw [List.forall₂_map_right_iff, List.forall₂_same]
    exact fun c hc => .plain (List.all_eq_true.mp h c hc)
  have hcoded := Token.CodedAs.string text hparts
  rwa [← List.flatMap_def, List.flatMap_singleton'] at hcoded

/-- A mark is written as the character that it is. -/
theorem Token.CodedAs.mark {token : Token} (c : Char) (h : punctuation? c = some token) :
    token.CodedAs [c] := by
  refine .other (.mark c h) ?_
  rintro pieces rfl
  rw [punctuation?.eq_def] at h
  split at h
  all_goals exact absurd h (by simp)

/-- A value is written as a text in ASCII: `Value.IsWrittenAs` with `Token.CodedAs` for its
tokens. -/
def Value.IsCodedAs (v : Value) (text : String) : Prop :=
  ∃ tokens, (Part.value v).Written tokens ∧ SpellsBy Token.CodedAs tokens text.toList

private theorem Token.CodedAs.exists_mark {token : Token} {cs : List Char} (h : token.CodedAs cs)
    (hmark : token.isMark = true) : ∃ c, cs = [c] ∧ punctuation? c = some token := by
  cases h with
  | string _ _ => exact absurd hmark Bool.false_ne_true
  | other h _ => exact h.exists_mark hmark

/-- `scan` takes a token in ASCII from the front of a text. -/
private theorem Token.CodedAs.scan_append {token : Token} {cs : List Char} (h : token.CodedAs cs)
    (rest : List Char) (hword : token.isWord = true → EndsWord rest) :
    scan (cs ++ rest) = (scan rest).map (token.respell recode :: ·) := by
  cases h with
  | string text hparts =>
    have hread := readPieces_coded hparts rest
    rw [List.cons_append, List.append_assoc, List.singleton_append]
    refine scan_cons_of_readToken (by decide) (by decide) ?_
    rw [readToken]
    dsimp only [punctuation?]
    rw [if_pos (Or.inl rfl), hread, Token.respell, recode_map_pieceOf]
    rfl
  | other h hother =>
    have hsame : token.respell recode = token := by
      cases token with
      | string pieces => exact absurd rfl (hother pieces)
      | leftBrace | rightBrace | leftBracket | rightBracket | colon | comma | name | number => rfl
    rw [scan_token h hword, hsame]

/-- A text in ASCII stands for the value with each text replaced by its `recodedText`. -/
theorem Value.IsCodedAs.isIn {v : Value} {text : String} (h : v.IsCodedAs text) :
    (v.mapText recodedText).IsIn text := by
  obtain ⟨tokens, hwritten, hspells⟩ := h
  refine hwritten.exists_tree text_recode ?_
  exact hspells.scan_eq (fun h => h.exists_mark) (fun h => h.scan_append) hwritten.isChain

/-! ### What can be written -/

/-- Every unit has a code. -/
private theorem exists_isCode (unit : UInt16) : ∃ cs, IsCode unit cs := by
  have hdigit : ∀ d < 16, IsDigit d d.digitChar := fun d hd => ⟨hd, .inl rfl⟩
  have hlt : unit.toNat < 0x10000 := unit.toNat_lt
  refine ⟨_, unit.toNat / 0x1000, unit.toNat / 0x100 % 16, unit.toNat / 0x10 % 16,
    unit.toNat % 16, _, _, _, _, ⟨hdigit _ ?_, hdigit _ ?_, hdigit _ ?_, hdigit _ ?_, ?_⟩, rfl⟩
  all_goals omega

/-- Every character is `CodedAs` something. -/
private theorem exists_codedAs (c : Char) : ∃ cs, CodedAs c cs := by
  cases hplain : isPlain c with
  | true => exact ⟨[c], .plain hplain⟩
  | false =>
    choose code hcode using exists_isCode
    refine ⟨((units c).map code).flatten, .codes hplain ?_⟩
    rw [List.forall₂_map_right_iff, List.forall₂_same]
    exact fun unit _ => hcode unit

/-- A token that can be spelled can be written in ASCII. -/
private theorem Token.SpelledAs.exists_codedAs {token : Token} {cs : List Char}
    (h : token.SpelledAs cs) : ∃ coded, token.CodedAs coded := by
  cases h with
  | string text =>
    choose coded hcoded using Json.exists_codedAs
    have hparts : List.Forall₂ Json.CodedAs text.toList (text.toList.map coded) := by
      rw [List.forall₂_map_right_iff, List.forall₂_same]
      exact fun c _ => hcoded c
    exact ⟨_, .string text hparts⟩
  | mark c hmark => exact ⟨_, .mark c hmark⟩
  | name hword => exact ⟨_, .other (.name hword) fun _ => Token.noConfusion⟩
  | number n => exact ⟨_, .other (.number n) fun _ => Token.noConfusion⟩

/-- A value that is `Value.Writable` can be written in ASCII. -/
theorem Value.Writable.exists_isCodedAs {v : Value} (h : v.Writable) :
    ∃ text, v.IsCodedAs text := by
  obtain ⟨tokens, hwritten⟩ := h
  have hcoded : ∀ token ∈ tokens, ∃ cs, token.CodedAs cs := by
    intro token htoken
    obtain ⟨cs, hcs⟩ := hwritten.exists_spelledAs token htoken
    exact hcs.exists_codedAs
  obtain ⟨cs, hcs⟩ := exists_spellsBy hcoded
  exact ⟨.ofList cs, tokens, hwritten, by rwa [String.toList_ofList]⟩

end Gamebook.Json
