import Gamebook.Json.Scan
import Gamebook.Json.Literal
import Mathlib.Data.List.Chain

/-!
# How tokens are spelled

A text is its tokens, one after the other, with spaces and comments between them. The scan of such
a text gives the tokens back, provided that nothing follows directly on a name or a number that
could be a part of it; a mark such as a comma never is.

Strings are spelled with the fewest escapes: quotes, backslashes and the ends of lines cannot stand
for themselves, and every other character does.

* `Gap` and `Spells`: what may stand between tokens, and the texts of a list of tokens.
* `SpellsBy.scan_eq`: the scan of a text, however its tokens are spelled.
* `scan_of_spells`: a text is cut into the tokens that it spells.
-/

namespace Gamebook.Json

/-! ### What stands between tokens -/

/-- Spaces and comments. -/
inductive Gap : List Char → Prop
  | nil : Gap []
  | space {c : Char} {rest : List Char} (h : isSpace c = true) (hrest : Gap rest) : Gap (c :: rest)
  /-- A comment that runs up to the next `*/`. -/
  | block (body : List Char) {rest : List Char} (h : ¬['*', '/'] <:+: body) (hrest : Gap rest) :
    Gap ('/' :: '*' :: (body ++ '*' :: '/' :: rest))
  /-- A comment that runs up to the end of its line. -/
  | line (body : List Char) {rest : List Char} {ending : Char}
    (h : ∀ c ∈ body, isLineEnd c = false) (hending : isLineEnd ending = true) (hrest : Gap rest) :
    Gap ('/' :: '/' :: (body ++ ending :: rest))

/-- For `afterBlock` a comment ends where its end is written first. -/
private theorem afterBlock_append {body rest : List Char} (h : ¬['*', '/'] <:+: body) :
    afterBlock (body ++ '*' :: '/' :: rest) = some rest := by
  induction body with
  | nil => rfl
  | cons c more ih =>
    have hmore : ¬['*', '/'] <:+: more :=
      fun hend => h (hend.trans (List.suffix_cons c more).isInfix)
    rw [List.cons_append, afterBlock.eq_2, ih hmore]
    rintro after rfl hafter
    -- an end that starts in the body lies in the body, since its second character is no star
    cases more with
    | nil => exact absurd hafter (by simp)
    | cons d others =>
      rw [List.cons_append, List.cons.injEq] at hafter
      rw [hafter.1] at h
      exact h ⟨[], others, rfl⟩

/-- Whatever `Gap` stands between tokens is left out by `scan`. -/
theorem scan_gap {gap : List Char} (h : Gap gap) (rest : List Char) :
    scan (gap ++ rest) = scan rest := by
  induction h with
  | nil => rfl
  | space hspace _ ih => rw [List.cons_append, scan_cons_of_isSpace hspace, ih]
  | @block body more hbody _ ih =>
    have hafter : afterComment ('*' :: (body ++ '*' :: '/' :: (more ++ rest))) =
        some (more ++ rest) := afterBlock_append hbody
    simp only [List.cons_append, List.append_assoc]
    rw [scan_slash hafter, ih]
  | @line body more ending hbody hending _ ih =>
    have hafter : afterComment ('/' :: (body ++ ending :: (more ++ rest))) =
        some (ending :: (more ++ rest)) := by
      rw [afterComment, List.dropWhile_append_of_pos (by simpa using hbody),
        List.dropWhile_cons_of_neg (by simp [hending])]
    have hspace : isSpace ending = true := by rw [isSpace, hending, Bool.or_true]
    simp only [List.cons_append, List.append_assoc]
    rw [scan_slash hafter, scan_cons_of_isSpace hspace, ih]

/-! ### The characters after a word -/

/-- Whether a character is no part of a name or a number. -/
def endsWord (c : Char) : Bool := !continuesName c && c != '\\' && c != '.'

/-- No name and no number goes on with a text: its first character `endsWord`. -/
def EndsWord (cs : List Char) : Prop := ∀ c ∈ cs.head?, endsWord c = true

private theorem endsWord_of_isSpace {c : Char} (h : isSpace c = true) : endsWord c = true := by
  rw [isSpace, Bool.or_eq_true] at h
  rcases h with h | h
  -- the table of spaces meets neither that of letters nor that of marks
  · have hletter : Text.isLetter c = false :=
      Text.Ranges.has_eq_false_of_has (by decide +kernel) h
    have hmark : Text.isMark c = false :=
      Text.Ranges.has_eq_false_of_has (by decide +kernel) h
    have hother : ∀ d : Char, spaceRanges.has d.toNat = false → (c == d) = false := by
      intro d hd
      refine beq_eq_false_iff_ne.mpr fun heq => ?_
      rw [heq, hd] at h
      exact absurd h Bool.false_ne_true
    simp only [endsWord, continuesName, startsName, hletter, hmark, bne,
      hother '$' (by decide), hother '_' (by decide), hother '\u200c' (by decide),
      hother '\u200d' (by decide), hother '\\' (by decide), hother '.' (by decide)]
    rfl
  · simp only [isLineEnd, Bool.or_eq_true, beq_iff_eq] at h
    rcases h with ((rfl | rfl) | rfl) | rfl <;> decide +kernel

/-- A digit goes on with a name or a number. -/
private theorem endsWord_of_isDigit {c : Char} (h : c.isDigit = true) : endsWord c = false := by
  rw [endsWord, continuesName, Text.isMark_of_isDigit h]
  simp

/-- The marks of `punctuation?` end a name or a number before them. -/
private theorem endsWord_of_punctuation? {c : Char} {token : Token}
    (h : punctuation? c = some token) : endsWord c = true := by
  rw [punctuation?.eq_def] at h
  split at h
  all_goals first | decide +kernel | exact absurd h (by simp)

/-- A character after a word is none that a word may hold. -/
private theorem EndsWord.ne {c d : Char} {rest : List Char} (h : EndsWord (c :: rest))
    (hd : endsWord d = false) : c ≠ d := by
  rintro rfl
  exact Bool.false_ne_true (hd.symm.trans (h c rfl))

/-- The character after a word is no digit. -/
private theorem EndsWord.isDigit_eq_false {c : Char} {rest : List Char} (h : EndsWord (c :: rest)) :
    c.isDigit = false :=
  Bool.eq_false_iff.mpr fun hdigit => h.ne (endsWord_of_isDigit hdigit) rfl

/-! ### Strings -/

/-- The characters that cannot stand for themselves in a string, with how they are written and the
pieces that are read there. -/
def escapes : List (Char × List Char × Piece) :=
  [('"', ['\\', '"'], .escaped '"'), ('\\', ['\\', '\\'], .escaped '\\'),
    ('\n', ['\\', 'n'], .escaped 'n'), ('\r', ['\\', 'r'], .escaped 'r'),
    ('\u2028', ['\\', 'u', '2', '0', '2', '8'], .unit 0x2028),
    ('\u2029', ['\\', 'u', '2', '0', '2', '9'], .unit 0x2029)]

/-- How a character is written in a string, as `escapes` says. -/
def spellChar (c : Char) : List Char := ((escapes.lookup c).map Prod.fst).getD [c]

/-- The `Piece` that is read where a character is written. -/
def pieceOf (c : Char) : Piece := ((escapes.lookup c).map Prod.snd).getD (.plain c)

/-- A character is written as the table `escapes` says, or else stands for itself. -/
private theorem mem_escapes_or_plain (c : Char) :
    (c, spellChar c, pieceOf c) ∈ escapes ∨
      (c ∉ escapes.map Prod.fst ∧ spellChar c = [c] ∧ pieceOf c = .plain c) := by
  rw [spellChar, pieceOf]
  cases hrow : escapes.lookup c with
  | none =>
    refine Or.inr ⟨fun hmem => ?_, rfl, rfl⟩
    obtain ⟨row, hrow', rfl⟩ := List.mem_map.mp hmem
    have hne := List.lookup_eq_none_iff.mp hrow row hrow'
    simp at hne
  | some row =>
    obtain ⟨before, after, hescapes, _⟩ := List.lookup_eq_some_iff.mp hrow
    refine Or.inl ?_
    rw [hescapes]
    exact List.mem_append_right _ List.mem_cons_self

/-- `readPieces` reads a character that is written in a string as its `pieceOf`. -/
private theorem readPieces_spellChar (c : Char) (cs : List Char) :
    readPieces '"' (spellChar c ++ cs) =
      (readPieces '"' cs).map fun (pieces, rest) => (pieceOf c :: pieces, rest) := by
  rcases mem_escapes_or_plain c with hrow | ⟨hnone, hspell, hpiece⟩
  · generalize spellChar c = spelled, pieceOf c = piece at hrow
    simp only [escapes, List.mem_cons, Prod.mk.injEq, List.not_mem_nil, or_false] at hrow
    rcases hrow with ⟨-, rfl, rfl⟩ | ⟨-, rfl, rfl⟩ | ⟨-, rfl, rfl⟩ | ⟨-, rfl, rfl⟩ | ⟨-, rfl, rfl⟩ |
      ⟨-, rfl, rfl⟩
    all_goals exact readPieces.eq_def _ _
  · simp only [escapes, List.map_cons, List.map_nil, List.mem_cons, List.not_mem_nil, or_false,
      not_or] at hnone
    obtain ⟨hquote, hslash, hfeed, hreturn, hline, hparagraph⟩ := hnone
    have hend : isLineEnd c = false := by simp [isLineEnd, hfeed, hreturn, hline, hparagraph]
    rw [hspell, hpiece, List.singleton_append, readPieces.eq_def]
    dsimp only
    rw [if_neg hquote, if_neg (by simp [hend]), if_pos hslash]

/-- `readPieces` reads a string that is written as the pieces of its characters. -/
private theorem readPieces_flatMap_spellChar (cs rest : List Char) :
    readPieces '"' (cs.flatMap spellChar ++ '"' :: rest) = some (cs.map pieceOf, rest) := by
  induction cs with
  | nil => exact readPieces.eq_def _ _
  | cons c more ih =>
    rw [List.flatMap_cons, List.append_assoc, readPieces_spellChar, ih]
    rfl

/-- The `pieceOf` a character stands for the character. -/
private theorem decode_pieceOf_cons (c : Char) (pieces : List Piece) :
    Piece.decode (pieceOf c :: pieces) = (c :: ·) <$> Piece.decode pieces := by
  rcases mem_escapes_or_plain c with hrow | ⟨_, _, hpiece⟩
  · generalize pieceOf c = piece at hrow
    simp only [escapes, List.mem_cons, Prod.mk.injEq, List.not_mem_nil, or_false] at hrow
    rcases hrow with ⟨rfl, -, rfl⟩ | ⟨rfl, -, rfl⟩ | ⟨rfl, -, rfl⟩ | ⟨rfl, -, rfl⟩ | ⟨rfl, -, rfl⟩ |
      ⟨rfl, -, rfl⟩
    all_goals exact Piece.decode.eq_def _
  · rw [hpiece]
    exact Piece.decode.eq_def _

/-- The pieces of characters stand for the characters, as `Piece.decode` says. -/
theorem decode_map_pieceOf (cs : List Char) : Piece.decode (cs.map pieceOf) = .ok cs := by
  induction cs with
  | nil => exact Piece.decode.eq_def _
  | cons c more ih =>
    rw [List.map_cons, decode_pieceOf_cons, ih]
    rfl

/-- The pieces of a text stand for the text, as `Piece.text` says. -/
theorem text_map_pieceOf (text : String) : Piece.text (text.toList.map pieceOf) = .ok text := by
  rw [Piece.text, decode_map_pieceOf]
  exact congrArg Except.ok String.ofList_toList

/-! ### Numbers -/

/-- The `Numeral` of a natural number that is written in decimal. -/
def decimal (n : Nat) : Numeral := ⟨none, .decimal (Nat.toDigits 10 n) none none⟩

/-- A number other than zero does not start with a zero. -/
private theorem head?_toDigits_ne_zero {n : Nat} (h : 0 < n) :
    (Nat.toDigits 10 n).head? ≠ some '0' := by
  have hdigit : ∀ d < 10, 0 < d → [Nat.digitChar d].head? ≠ some '0' := by decide
  induction n using Nat.strongRecOn with
  | _ n ih =>
    by_cases hsmall : n < 10
    -- the first digit of a longer number is that of its tenth part
    · rw [Nat.toDigits_of_lt_base hsmall]
      exact hdigit n hsmall h
    · rw [Nat.toDigits_of_base_le (by decide) (Nat.le_of_not_lt hsmall),
        List.head?_append_of_ne_nil _ Nat.toDigits_ne_nil]
      exact ih (n / 10) (by omega) (by omega)

theorem isDigit_of_mem_toDigits {n : Nat} {c : Char} (h : c ∈ Nat.toDigits 10 n) :
    c.isDigit = true :=
  Nat.isDigit_of_mem_toDigits (by decide) (by decide) h

/-- A number starts with a digit, and with a zero only if it is zero. -/
private theorem isDigit_of_toDigits_append {n : Nat} {c : Char} {rest after : List Char}
    (h : Nat.toDigits 10 n ++ rest = c :: after) : c.isDigit = true ∧ (c = '0' → n = 0) := by
  cases hdigits : Nat.toDigits 10 n with
  | nil => exact absurd hdigits Nat.toDigits_ne_nil
  | cons d more =>
    rw [hdigits, List.cons_append, List.cons.injEq] at h
    refine ⟨isDigit_of_mem_toDigits (n := n) (by rw [hdigits, h.1]; exact List.mem_cons_self), ?_⟩
    intro hzero
    refine Nat.eq_zero_of_not_pos fun hpos => head?_toDigits_ne_zero hpos ?_
    rw [hdigits, List.head?_cons, h.1, hzero]

/-- `readDigits` reads up to the end of a word. -/
private theorem readDigits_append {digits rest : List Char}
    (hdigits : ∀ c ∈ digits, c.isDigit = true) (h : EndsWord rest) :
    readDigits (digits ++ rest) = (digits, rest) := by
  rw [readDigits, List.takeWhile_append_of_pos hdigits, List.dropWhile_append_of_pos hdigits]
  cases rest with
  | nil => rw [List.takeWhile_nil, List.dropWhile_nil, List.append_nil]
  | cons c more =>
    have hc : ¬c.isDigit = true := by rw [h.isDigit_eq_false]; exact Bool.false_ne_true
    rw [List.takeWhile_cons_of_neg hc, List.dropWhile_cons_of_neg hc, List.append_nil]

/-- `readWhole` takes all digits of a number. -/
private theorem readWhole_toDigits {n : Nat} {rest : List Char} (h : EndsWord rest) :
    readWhole (Nat.toDigits 10 n ++ rest) = (Nat.toDigits 10 n, rest) := by
  by_cases hzero : n = 0
  · subst hzero
    rfl
  · rw [readWhole.eq_2 _ fun after heq => hzero ((isDigit_of_toDigits_append heq).2 rfl)]
    exact readDigits_append (fun c hc => isDigit_of_mem_toDigits hc) h

/-- There is nothing for `readFraction` after a whole number. -/
private theorem readFraction_of_endsWord {rest : List Char} (h : EndsWord rest) :
    readFraction rest = (none, rest) := by
  rw [readFraction.eq_2]
  rintro after rfl
  exact h.ne (by decide) rfl

/-- There is nothing for `readExponent` after a whole number. -/
private theorem readExponent_of_endsWord {rest : List Char} (h : EndsWord rest) :
    readExponent rest = (none, rest) := by
  cases rest with
  | nil => rfl
  | cons c more =>
    have hc : ¬(c = 'e' ∨ c = 'E') := by
      rw [not_or]
      exact ⟨h.ne (by decide), h.ne (by decide)⟩
    rw [readExponent, if_neg hc]

/-- `readNumeral` reads a number that is written in decimal to its end. -/
private theorem readNumeral_toDigits {n : Nat} {rest : List Char} (h : EndsWord rest) :
    readNumeral (Nat.toDigits 10 n ++ rest) = some (decimal n, rest) := by
  have hdecimal : readDecimal (Nat.toDigits 10 n ++ rest) =
      some (.decimal (Nat.toDigits 10 n) none none, rest) := by
    rw [readDecimal, readWhole_toDigits h]
    dsimp only
    rw [readFraction_of_endsWord h]
    dsimp only
    rw [readExponent_of_endsWord h, List.isEmpty_eq_false_iff.mpr Nat.toDigits_ne_nil]
    rfl
  have hmagnitude : readMagnitude (Nat.toDigits 10 n ++ rest) =
      readDecimal (Nat.toDigits 10 n ++ rest) := by
    rw [readMagnitude.eq_def]
    split
    · next heq => exact absurd (isDigit_of_toDigits_append heq).1 (by decide)
    · next heq => exact absurd (isDigit_of_toDigits_append heq).1 (by decide)
    -- a zero in front is the whole number, and what follows it is no `x`
    · next x after heq =>
      have hzero : n = 0 := (isDigit_of_toDigits_append heq).2 rfl
      subst hzero
      have hrest : rest = x :: after := (List.cons.inj heq).2
      rw [hrest] at h
      refine if_neg fun hx => ?_
      rcases hx.1 with hx | hx
      · exact h.ne (by decide) hx
      · exact h.ne (by decide) hx
    · rfl
  have hsign : readSign (Nat.toDigits 10 n ++ rest) = (none, Nat.toDigits 10 n ++ rest) := by
    refine readSign.eq_3 _ (fun after heq => ?_) fun after heq => ?_
    · exact absurd (isDigit_of_toDigits_append heq).1 (by decide)
    · exact absurd (isDigit_of_toDigits_append heq).1 (by decide)
  rw [readNumeral, hsign]
  dsimp only
  rw [hmagnitude, hdecimal]
  rfl

/-! ### Tokens -/

/-- A `Token` as it is written. -/
inductive Token.SpelledAs : Token → List Char → Prop
  | mark (c : Char) {token : Token} (h : punctuation? c = some token) : SpelledAs token [c]
  | name {word : String} (h : word ∈ ["null", "true", "false"]) :
    SpelledAs (.name (word.toList.map .plain)) word.toList
  | number (n : Nat) : SpelledAs (.number (decimal n)) (Nat.toDigits 10 n)
  | string (text : String) :
    SpelledAs (.string (text.toList.map pieceOf)) ('"' :: (text.toList.flatMap spellChar ++ ['"']))

/-- Whether a token is a single character. -/
def Token.isMark : Token → Bool
  | .leftBrace | .rightBrace | .leftBracket | .rightBracket | .colon | .comma => true
  | .string _ | .name _ | .number _ => false

/-- Whether a token ends only where the text after it does not go on with it. -/
def Token.isWord : Token → Bool
  | .name _ | .number _ => true
  | .leftBrace | .rightBrace | .leftBracket | .rightBracket | .colon | .comma | .string _ => false

/-- `readName` goes on with a character, other than a backslash, if a name can. -/
private theorem readName_cons {c : Char} {rest : List Char} (h : c ≠ '\\') :
    readName (c :: rest) =
      if continuesName c then (.plain c :: (readName rest).1, (readName rest).2)
      else ([], c :: rest) :=
  readName.eq_2 c rest fun _ _ _ _ _ hc _ => h hc

/-- `readName` reads characters of a name up to the end of the word. -/
private theorem readName_append {cs rest : List Char}
    (hcs : cs.all (fun c => continuesName c && c != '\\') = true) (h : EndsWord rest) :
    readName (cs ++ rest) = (cs.map .plain, rest) := by
  induction cs with
  | nil =>
    cases rest with
    | nil => exact readName.eq_3
    | cons c more =>
      have hend := h c rfl
      simp only [endsWord, Bool.and_eq_true, Bool.not_eq_true'] at hend
      rw [List.nil_append, readName_cons (h.ne (by decide)), hend.1.1]
      rfl
  | cons c more ih =>
    simp only [List.all_cons, Bool.and_eq_true, bne_iff_ne] at hcs
    rw [List.cons_append, readName_cons hcs.1.2, if_pos hcs.1.1, ih hcs.2]
    rfl

/-- `scan` takes a mark from the front of a text. -/
private theorem scan_mark {c : Char} {token : Token} (rest : List Char)
    (h : punctuation? c = some token) : scan (c :: rest) = (scan rest).map (token :: ·) := by
  have hfirst : isSpace c = false ∧ c ≠ '/' := by
    rw [punctuation?.eq_def] at h
    split at h
    all_goals first | decide | exact absurd h (by simp)
  refine scan_cons_of_readToken hfirst.1 hfirst.2 ?_
  rw [readToken, h]

/-- `scan` takes a name from the front of a text. -/
private theorem scan_name {c : Char} {cs rest : List Char}
    (hfirst : isSpace c = false ∧ c ≠ '/' ∧ punctuation? c = none ∧ ¬(c = '"' ∨ c = '\x27') ∧
      startsNumber c = false ∧ startsName c = true)
    (hcs : (c :: cs).all (fun d => continuesName d && d != '\\') = true) (h : EndsWord rest) :
    scan (c :: cs ++ rest) = (scan rest).map (.name ((c :: cs).map .plain) :: ·) := by
  obtain ⟨hspace, hslash, hpunctuation, hquote, hnumber, hname⟩ := hfirst
  have hread := readName_append hcs h
  rw [List.cons_append] at hread ⊢
  refine scan_cons_of_readToken hspace hslash ?_
  rw [readToken, hpunctuation]
  dsimp only
  rw [if_neg hquote, if_neg (by simp [hnumber]), if_pos (by simp [hname]), hread]
  rfl

/-- `scan` takes a number from the front of a text. -/
private theorem scan_number {n : Nat} {rest : List Char} (h : EndsWord rest) :
    scan (Nat.toDigits 10 n ++ rest) = (scan rest).map (.number (decimal n) :: ·) := by
  have hread := readNumeral_toDigits (n := n) h
  cases hcs : Nat.toDigits 10 n ++ rest with
  | nil => exact absurd (List.append_eq_nil_iff.mp hcs).1 Nat.toDigits_ne_nil
  | cons c more =>
    have hdigit := (isDigit_of_toDigits_append hcs).1
    have hword : endsWord c = false := endsWord_of_isDigit hdigit
    have hspace : isSpace c = false :=
      Bool.eq_false_iff.mpr fun hspace => by simp [endsWord_of_isSpace hspace] at hword
    have hpunctuation : punctuation? c = none := by
      refine Option.eq_none_iff_forall_not_mem.mpr fun token htoken => ?_
      rw [endsWord_of_punctuation? htoken] at hword
      exact Bool.false_ne_true hword.symm
    have hother : ∀ d : Char, d.isDigit = false → c ≠ d := by
      rintro d hd rfl
      exact Bool.false_ne_true (hd.symm.trans hdigit)
    rw [hcs] at hread
    refine scan_cons_of_readToken hspace (hother _ (by decide)) ?_
    rw [readToken, hpunctuation]
    dsimp only
    rw [if_neg (not_or.mpr ⟨hother _ (by decide), hother _ (by decide)⟩),
      if_pos (by simp [startsNumber, hdigit]), hread]
    rfl

/-- `scan` takes a token from the front of a text. -/
theorem scan_token {token : Token} {cs rest : List Char} (h : token.SpelledAs cs)
    (hword : token.isWord = true → EndsWord rest) :
    scan (cs ++ rest) = (scan rest).map (token :: ·) := by
  cases h with
  | mark _ h => exact scan_mark rest h
  | @name word h =>
    simp only [List.mem_cons, List.not_mem_nil, or_false] at h
    rcases h with rfl | rfl | rfl
    · exact scan_name (by decide) (by decide) (hword rfl)
    · exact scan_name (by decide) (by decide) (hword rfl)
    · exact scan_name (by decide) (by decide) (hword rfl)
  | number n => exact scan_number (hword rfl)
  | string text =>
    -- a string ends with its quote, whatever follows
    have hread := readPieces_flatMap_spellChar text.toList rest
    rw [List.cons_append, List.append_assoc, List.singleton_append]
    refine scan_cons_of_readToken (by decide) (by decide) ?_
    rw [readToken]
    dsimp only [punctuation?]
    rw [if_pos (Or.inl rfl), hread]
    rfl

/-! ### Texts -/

/-- A token may stand directly before another: after a name or a number comes a mark. -/
def Token.Joins (token next : Token) : Prop := token.isWord = true → next.isMark = true

/-- The texts of a list of tokens, each with a text that is `spelled`, and a `Gap` before each and
at the end. -/
inductive SpellsBy (spelled : Token → List Char → Prop) : List Token → List Char → Prop
  | nil {gap : List Char} (h : Gap gap) : SpellsBy spelled [] gap
  | cons {gap cs rest : List Char} {token : Token} {tokens : List Token} (hgap : Gap gap)
    (htoken : spelled token cs) (hrest : SpellsBy spelled tokens rest) :
    SpellsBy spelled (token :: tokens) (gap ++ (cs ++ rest))

/-- The texts of a list of tokens: `SpellsBy` where each token is `Token.SpelledAs` its text. -/
def Spells : List Token → List Char → Prop := SpellsBy Token.SpelledAs

/-- A mark is spelled as the character that it is. -/
theorem Token.SpelledAs.exists_mark {token : Token} {cs : List Char} (h : token.SpelledAs cs)
    (hmark : token.isMark = true) : ∃ c, cs = [c] ∧ punctuation? c = some token := by
  cases h with
  | mark c hpunctuation => exact ⟨c, rfl, hpunctuation⟩
  | name _ | number _ | string _ => exact absurd hmark Bool.false_ne_true

/-- A `Gap` ends a name or a number before it. -/
private theorem EndsWord.gap_append {gap rest : List Char} (hgap : Gap gap) (h : EndsWord rest) :
    EndsWord (gap ++ rest) := by
  cases hgap with
  | nil => exact h
  | space hspace _ =>
    rintro c ⟨⟩
    exact endsWord_of_isSpace hspace
  | block _ _ _ =>
    rintro c ⟨⟩
    decide
  | line _ _ _ _ =>
    rintro c ⟨⟩
    decide

section SpellsBy

variable {spelled : Token → List Char → Prop} {tokens : List Token} {cs : List Char}

/-- No name and no number goes on with a text whose first token is a mark. -/
private theorem SpellsBy.endsWord (h : SpellsBy spelled tokens cs)
    (hspelled : ∀ {token cs}, spelled token cs → token.isMark = true →
      ∃ c, cs = [c] ∧ punctuation? c = some token)
    (hmark : ∀ token ∈ tokens.head?, token.isMark = true) : EndsWord cs := by
  cases h with
  | nil hgap =>
    rw [← List.append_nil cs]
    exact .gap_append hgap fun c hc => absurd hc (by simp)
  | cons hgap htoken _ =>
    refine .gap_append hgap ?_
    obtain ⟨d, rfl, hpunctuation⟩ := hspelled htoken (hmark _ rfl)
    rintro c ⟨⟩
    exact endsWord_of_punctuation? hpunctuation

/-- Tokens each of which has a text by `spelled` have one together by `SpellsBy`. -/
theorem exists_spellsBy (h : ∀ token ∈ tokens, ∃ cs, spelled token cs) :
    ∃ cs, SpellsBy spelled tokens cs := by
  induction tokens with
  | nil => exact ⟨[], .nil .nil⟩
  | cons token rest ih =>
    rw [List.forall_mem_cons] at h
    obtain ⟨cs, hcs⟩ := h.1
    obtain ⟨more, hmore⟩ := ih h.2
    exact ⟨_, .cons .nil hcs hmore⟩

/-- `scan` cuts a text into what is read of the tokens that it spells, one by one. -/
theorem SpellsBy.scan_eq {read : Token → Token} (h : SpellsBy spelled tokens cs)
    (hspelled : ∀ {token cs}, spelled token cs → token.isMark = true →
      ∃ c, cs = [c] ∧ punctuation? c = some token)
    (hread : ∀ {token cs}, spelled token cs → ∀ rest, (token.isWord = true → EndsWord rest) →
      scan (cs ++ rest) = (scan rest).map (read token :: ·))
    (hjoin : tokens.IsChain Token.Joins) : scan cs = some (tokens.map read) := by
  induction h with
  | nil hgap =>
    have hscan := scan_gap hgap []
    rwa [List.append_nil, scan_nil] at hscan
  | cons hgap htoken hrest ih =>
    rw [List.isChain_cons] at hjoin
    rw [scan_gap hgap, hread htoken, ih hjoin.2]
    · rfl
    · intro hword
      exact hrest.endsWord hspelled fun next hnext => hjoin.1 next hnext hword

end SpellsBy

/-- `scan` cuts a text into the tokens that it `Spells`. -/
theorem scan_of_spells {tokens : List Token} {cs : List Char} (h : Spells tokens cs)
    (hjoin : tokens.IsChain Token.Joins) :
    scan cs = some tokens := by
  rw [SpellsBy.scan_eq h (fun htoken => htoken.exists_mark) (fun htoken _ => scan_token htoken)
    hjoin, List.map_id']

end Gamebook.Json
