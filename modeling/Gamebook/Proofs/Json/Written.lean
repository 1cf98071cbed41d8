import Gamebook.Proofs.Json.Spelling
import Gamebook.StoryFile

/-!
# Written values

A value is written with quoted keys and decimal numbers, and with a comma after the last element of
an array or the last member of an object wherever one likes. Its text is read as the value.

* `Part.Written`: the tokens of a value, and of what stands between brackets.
* `Part.Written.reads_respell`: the reader takes these tokens from any state that waits for them,
  also where the strings are spelled as other texts.
* `Value.IsWrittenAs.exists_tree`: a text is read as the value that is written in it.
-/

namespace Gamebook.Json

/-- What is written as a whole: a value, or what stands between a pair of brackets. -/
inductive Part where
  | value (value : Value)
  | items (items : List Value)
  | members (members : List (String × Value))

namespace Part

/-- The `Token` of a text as a string. -/
def stringToken (text : String) : Token := .string (text.toList.map pieceOf)

/-- The `Token` of a word as a name. -/
def nameToken (word : String) : Token := .name (word.toList.map .plain)

/-- The tokens with which a `Part` is written. A comma stands after each element and each member,
apart from the last, where it may be left out. -/
inductive Written : Part → List Token → Prop
  | null : Written (.value .null) [nameToken "null"]
  | bool (b : Bool) : Written (.value (.bool b)) [nameToken (if b then "true" else "false")]
  | int {n : Nat} (h : (n : Int) ≤ Int64.maxValue.toInt) :
    Written (.value (.int n)) [.number (decimal n)]
  | string (text : String) : Written (.value (.string text)) [stringToken text]
  | array {items : List Value} {tokens : List Token} (h : Written (.items items) tokens) :
    Written (.value (.array items)) (.leftBracket :: (tokens ++ [.rightBracket]))
  | object {members : List (String × Value)} {tokens : List Token}
    (h : Written (.members members) tokens) :
    Written (.value (.object members)) (.leftBrace :: (tokens ++ [.rightBrace]))
  | noItem : Written (.items []) []
  | lastItem {value : Value} {tokens : List Token} (h : Written (.value value) tokens) :
    Written (.items [value]) tokens
  | item {value : Value} {rest : List Value} {tokens more : List Token}
    (h : Written (.value value) tokens) (hrest : Written (.items rest) more) :
    Written (.items (value :: rest)) (tokens ++ .comma :: more)
  | noMember : Written (.members []) []
  | lastMember {key : String} {value : Value} {tokens : List Token}
    (h : Written (.value value) tokens) :
    Written (.members [(key, value)]) (stringToken key :: .colon :: tokens)
  | member {key : String} {value : Value} {rest : List (String × Value)} {tokens more : List Token}
    (h : Written (.value value) tokens) (hrest : Written (.members rest) more) :
    Written (.members ((key, value) :: rest))
      (stringToken key :: .colon :: (tokens ++ .comma :: more))

end Part

/-! ### Other texts -/

section OtherTexts

variable (f : String → String)

mutual

/-- A value with `f` applied to its texts and keys. -/
def Value.mapText : Value → Value
  | .string text => .string (f text)
  | .array items => .array (Value.mapItems items)
  | .object members => .object (Value.mapMembers members)
  | value => value

/-- The elements of an array, each by `Value.mapText`. -/
def Value.mapItems : List Value → List Value
  | [] => []
  | value :: rest => value.mapText :: Value.mapItems rest

/-- The members of an object with their keys and texts changed as by `Value.mapText`. -/
def Value.mapMembers : List (String × Value) → List (String × Value)
  | [] => []
  | (key, value) :: rest => (f key, value.mapText) :: Value.mapMembers rest

end

/-- A `Part` with its texts and keys changed. -/
def Part.mapText : Part → Part
  | .value v => .value (v.mapText f)
  | .items vs => .items (Value.mapItems f vs)
  | .members ms => .members (Value.mapMembers f ms)

theorem Value.mapItems_eq_map (items : List Value) :
    Value.mapItems f items = items.map (Value.mapText f) := by
  induction items with
  | nil => rfl
  | cons value rest ih => rw [Value.mapItems, ih, List.map_cons]

theorem Value.mapMembers_eq_map (members : List (String × Value)) :
    Value.mapMembers f members =
      members.map fun member => (f member.1, Value.mapText f member.2) := by
  induction members with
  | nil => rfl
  | cons member rest ih => rw [Value.mapMembers, ih, List.map_cons]

end OtherTexts

mutual

theorem Value.mapText_id : ∀ v : Value, v.mapText id = v
  | .null | .bool _ | .int _ | .float _ | .string _ => rfl
  | .array items => by rw [Value.mapText, Value.mapItems_id]
  | .object members => by rw [Value.mapText, Value.mapMembers_id]

private theorem Value.mapItems_id : ∀ items : List Value, Value.mapItems id items = items
  | [] => rfl
  | value :: rest => by rw [Value.mapItems, value.mapText_id, Value.mapItems_id rest]

private theorem Value.mapMembers_id : ∀ members : List (String × Value),
    Value.mapMembers id members = members
  | [] => rfl
  | (key, value) :: rest => by
    rw [Value.mapMembers, value.mapText_id, Value.mapMembers_id rest, id_eq]

end

/-- A `Token` with the pieces of a string changed. -/
def Token.respell (g : List Piece → List Piece) : Token → Token
  | .string pieces => .string (g pieces)
  | token => token

namespace Part

/-! ### Reading what is written -/

/-- A `Part` is read from its tokens, wherever it stands. -/
def Reads : Part → List Token → Prop
  | .value v, tokens =>
    (∃ token rest, tokens = token :: rest ∧ token ≠ .rightBracket) ∧
      ∃ tree : Tree, tree.value = .ok v ∧
        ∀ stack, (State.value stack).run tokens = some (.after tree stack)
  | .items vs, tokens =>
    ∃ trees, Tree.values trees = .ok vs ∧
      ∀ done stack, (State.item done stack).run (tokens ++ [.rightBracket]) =
        some (.after (.array (done.reverse ++ trees)) stack)
  | .members ms, tokens =>
    ∃ trees, Tree.members trees = .ok ms ∧
      ∀ done stack, (State.member done stack).run (tokens ++ [.rightBrace]) =
        some (.after (.object (done.reverse ++ trees)) stack)

/-- A value of one token is read from it. -/
private theorem reads_of_start {v : Value} {token : Token} (tree : Tree)
    (hne : token ≠ .rightBracket) (hvalue : tree.value = .ok v)
    (hstart : ∀ stack, State.start stack token = some (.after tree stack)) :
    (Part.value v).Reads [token] := by
  refine ⟨⟨token, [], rfl, hne⟩, tree, hvalue, fun stack => ?_⟩
  rw [State.run_cons, State.step, hstart]
  rfl

/-- A `decimal` number stands for the number if it fits 64 bits. -/
private theorem value_decimal {n : Nat} (h : (n : Int) ≤ Int64.maxValue.toInt) :
    (Tree.number (decimal n)).value = .ok (.int n) := by
  have hdigits : signed none (ofDigits (Nat.toDigits 10 n)) = n := by
    rw [ofDigits, Nat.ofDigitChars_ten_toDigits]
    rfl
  have hlow : Int64.minValue.toInt ≤ (n : Int) := Int.le_trans (by decide) (Int.natCast_nonneg n)
  rw [Tree.value, Numeral.value, decimal]
  dsimp only
  rw [decimalValue, hdigits]
  exact (if_pos rfl).trans (if_pos ⟨hlow, h⟩)

/-- The first token of an element is taken as that of a value. -/
private theorem run_item {token : Token} (rest : List Token) (h : token ≠ .rightBracket)
    (done : List Tree) (stack : List Frame) :
    (State.item done stack).run (token :: rest) =
      (State.value (.array done :: stack)).run (token :: rest) := by
  have hstep : (State.item done stack).step token =
      (State.value (.array done :: stack)).step token := by
    cases token with
    | rightBracket => exact absurd rfl h
    | leftBrace | rightBrace | leftBracket | colon | comma | string | name | number => rfl
  rw [State.run_cons, State.run_cons, hstep]

/-- `State.run` reads a value as an element of an array. -/
private theorem run_item_append {tokens : List Token} {tree : Tree}
    (hfirst : ∃ token rest, tokens = token :: rest ∧ token ≠ .rightBracket)
    (hrun : ∀ stack, (State.value stack).run tokens = some (.after tree stack))
    (done : List Tree) (stack : List Frame) (more : List Token) :
    (State.item done stack).run (tokens ++ more) =
      (State.after tree (.array done :: stack)).run more := by
  obtain ⟨token, rest, rfl, hne⟩ := hfirst
  rw [State.run_append, run_item rest hne, hrun]
  rfl

/-- `State.run` reads a key and its value as a member of an object. -/
private theorem run_member_append {key : List Piece} {tokens : List Token} {tree : Tree}
    (hrun : ∀ stack, (State.value stack).run tokens = some (.after tree stack))
    (done : List (List Piece × Tree)) (stack : List Frame) (more : List Token) :
    (State.member done stack).run (.string key :: .colon :: (tokens ++ more)) =
      (State.after tree (.object done key :: stack)).run more := by
  rw [State.run_cons]
  change (State.value (.object done key :: stack)).run (tokens ++ more) = _
  rw [State.run_append, hrun]
  rfl

/-- What is `Part.Written` is read with other texts where its strings are spelled as those. -/
theorem Written.reads_respell {f : String → String} {g : List Piece → List Piece}
    (hg : ∀ text : String, Piece.text (g (text.toList.map pieceOf)) = .ok (f text)) {part : Part}
    {tokens : List Token} (h : part.Written tokens) :
    (part.mapText f).Reads (tokens.map (Token.respell g)) := by
  -- `Reads` is about every stack, so it can be used below the brackets that a part opens
  induction h with
  | null => exact reads_of_start .null Token.noConfusion rfl fun stack => rfl
  | bool b =>
    cases b with
    | false => exact reads_of_start (.bool false) Token.noConfusion rfl fun stack => rfl
    | true => exact reads_of_start (.bool true) Token.noConfusion rfl fun stack => rfl
  | int h =>
    exact reads_of_start (.number _) Token.noConfusion (value_decimal h) fun stack => rfl
  | string text =>
    refine reads_of_start (.string (g (text.toList.map pieceOf))) Token.noConfusion ?_
      fun stack => rfl
    rw [Tree.value, hg]
    rfl
  | array _ ih =>
    obtain ⟨trees, hvalues, hrun⟩ := ih
    refine ⟨⟨_, _, rfl, Token.noConfusion⟩, .array trees, ?_, fun stack => ?_⟩
    · rw [Tree.value, hvalues]
      rfl
    · rw [List.map_cons, List.map_append]
      exact hrun [] stack
  | object _ ih =>
    obtain ⟨trees, hmembers, hrun⟩ := ih
    refine ⟨⟨_, _, rfl, Token.noConfusion⟩, .object trees, ?_, fun stack => ?_⟩
    · rw [Tree.value, hmembers]
      rfl
    · rw [List.map_cons, List.map_append]
      exact hrun [] stack
  | noItem => exact ⟨[], rfl, fun done stack => by rw [List.append_nil]; rfl⟩
  | lastItem _ ih =>
    obtain ⟨hfirst, tree, hvalue, hrun⟩ := ih
    refine ⟨[tree], ?_, fun done stack => ?_⟩
    · rw [Tree.values, Tree.values, hvalue]
      rfl
    · rw [run_item_append hfirst hrun, ← List.reverse_cons]
      rfl
  | item _ _ ih ih' =>
    obtain ⟨hfirst, tree, hvalue, hrun⟩ := ih
    obtain ⟨trees, hvalues, hrun'⟩ := ih'
    refine ⟨tree :: trees, ?_, fun done stack => ?_⟩
    · rw [Tree.values, hvalue, hvalues]
      rfl
    · rw [List.map_append, List.append_assoc, run_item_append hfirst hrun,
        List.append_cons done.reverse, ← List.reverse_cons]
      exact hrun' (tree :: done) stack
  | noMember => exact ⟨[], rfl, fun done stack => by rw [List.append_nil]; rfl⟩
  | @lastMember key _ _ _ ih =>
    obtain ⟨_, tree, hvalue, hrun⟩ := ih
    refine ⟨[(g (key.toList.map pieceOf), tree)], ?_, fun done stack => ?_⟩
    · rw [Tree.members, Tree.members, hg, hvalue]
      rfl
    · refine (run_member_append hrun done stack _).trans ?_
      rw [← List.reverse_cons]
      rfl
  | @member key _ _ _ _ _ _ ih ih' =>
    obtain ⟨_, tree, hvalue, hrun⟩ := ih
    obtain ⟨trees, hmembers, hrun'⟩ := ih'
    refine ⟨(g (key.toList.map pieceOf), tree) :: trees, ?_, fun done stack => ?_⟩
    · rw [Tree.members, hg, hvalue, hmembers]
      rfl
    · rw [List.map_cons, List.map_cons, List.map_append, List.cons_append, List.cons_append,
        List.append_assoc]
      refine (run_member_append hrun done stack _).trans ?_
      rw [List.append_cons done.reverse, ← List.reverse_cons]
      exact hrun' ((g (key.toList.map pieceOf), tree) :: done) stack

/-! ### The tokens of a part in a text -/

/-- A token that is no word `Token.Joins` any other. -/
private theorem isChain_cons_of_isWord {token : Token} {rest : List Token}
    (hword : token.isWord = false) (hrest : rest.IsChain Token.Joins) :
    (token :: rest).IsChain Token.Joins := by
  refine List.isChain_cons.mpr ⟨fun next _ htoken => ?_, hrest⟩
  exact absurd (hword.symm.trans htoken) Bool.false_ne_true

/-- The tokens of a `Part` can be told apart in a text, if a mark comes after them. -/
private theorem Written.isChain_append {part : Part} {tokens rest : List Token}
    (h : part.Written tokens) (hrest : rest.IsChain Token.Joins)
    (hmark : ∀ next ∈ rest.head?, next.isMark = true) : (tokens ++ rest).IsChain Token.Joins := by
  -- what follows is generalized: inside a list it is the comma or the bracket after an element
  induction h generalizing rest with
  | null | bool _ | int _ =>
    exact List.isChain_cons.mpr ⟨fun next hnext _ => hmark next hnext, hrest⟩
  | string _ => exact isChain_cons_of_isWord rfl hrest
  | array _ ih | object _ ih =>
    rw [List.cons_append, List.append_assoc]
    refine isChain_cons_of_isWord rfl (ih (isChain_cons_of_isWord rfl hrest) ?_)
    rintro next ⟨⟩
    rfl
  | noItem | noMember => exact hrest
  | lastItem _ ih => exact ih hrest hmark
  | item _ _ ih ih' =>
    rw [List.append_assoc]
    refine ih (isChain_cons_of_isWord rfl (ih' hrest hmark)) ?_
    rintro next ⟨⟩
    rfl
  | lastMember _ ih =>
    exact isChain_cons_of_isWord rfl (isChain_cons_of_isWord rfl (ih hrest hmark))
  | member _ _ ih ih' =>
    rw [List.cons_append, List.cons_append, List.append_assoc]
    refine isChain_cons_of_isWord rfl (isChain_cons_of_isWord rfl ?_)
    refine ih (isChain_cons_of_isWord rfl (ih' hrest hmark)) ?_
    rintro next ⟨⟩
    rfl

/-- Each token with which a part is written is `Token.SpelledAs` something. -/
theorem Written.exists_spelledAs {part : Part} {tokens : List Token} (h : part.Written tokens) :
    ∀ token ∈ tokens, ∃ cs, token.SpelledAs cs := by
  have hmark : ∀ (token : Token) (c : Char), punctuation? c = some token →
      ∃ cs, token.SpelledAs cs := fun _ c h => ⟨[c], .mark c h⟩
  induction h with
  | null => exact List.forall_mem_singleton.mpr ⟨_, .name (by decide)⟩
  | bool b =>
    refine List.forall_mem_singleton.mpr ⟨_, .name ?_⟩
    cases b <;> decide
  | int _ => exact List.forall_mem_singleton.mpr ⟨_, .number _⟩
  | string text => exact List.forall_mem_singleton.mpr ⟨_, .string text⟩
  | array _ ih =>
    simp only [List.forall_mem_cons, List.forall_mem_append]
    exact ⟨hmark _ '[' rfl, ih, hmark _ ']' rfl, List.forall_mem_nil _⟩
  | object _ ih =>
    simp only [List.forall_mem_cons, List.forall_mem_append]
    exact ⟨hmark _ '\x7b' rfl, ih, hmark _ '\x7d' rfl, List.forall_mem_nil _⟩
  | noItem | noMember => exact List.forall_mem_nil _
  | lastItem _ ih => exact ih
  | item _ _ ih ih' =>
    simp only [List.forall_mem_cons, List.forall_mem_append]
    exact ⟨ih, hmark _ ',' rfl, ih'⟩
  | lastMember _ ih =>
    simp only [List.forall_mem_cons]
    exact ⟨⟨_, .string _⟩, hmark _ ':' rfl, ih⟩
  | member _ _ ih ih' =>
    simp only [List.forall_mem_cons, List.forall_mem_append]
    exact ⟨⟨_, .string _⟩, hmark _ ':' rfl, ih, hmark _ ',' rfl, ih'⟩

end Part

/-! ### Whole texts -/

/-- A value is written as a text that `Spells` its tokens. -/
def Value.IsWrittenAs (v : Value) (text : String) : Prop :=
  ∃ tokens, (Part.value v).Written tokens ∧ Spells tokens text.toList

/-- A value can be written with some tokens, as `Part.Written` says. -/
def Value.Writable (v : Value) : Prop := ∃ tokens, (Part.value v).Written tokens

theorem Value.writable_string (text : String) : (Value.string text).Writable :=
  ⟨_, .string text⟩

/-- An array of values that are `Value.Writable` is so. -/
theorem Value.writable_array {items : List Value} (h : ∀ v ∈ items, v.Writable) :
    (Value.array items).Writable := by
  have hitems : ∃ tokens, (Part.items items).Written tokens := by
    induction items with
    | nil => exact ⟨[], .noItem⟩
    | cons v rest ih =>
      rw [List.forall_mem_cons] at h
      obtain ⟨tokens, hv⟩ := h.1
      obtain ⟨more, hrest⟩ := ih h.2
      exact ⟨_, .item hv hrest⟩
  obtain ⟨tokens, hitems⟩ := hitems
  exact ⟨_, .array hitems⟩

/-- An object of values that are `Value.Writable` is so. -/
theorem Value.writable_object {members : List (String × Value)}
    (h : ∀ member ∈ members, member.2.Writable) : (Value.object members).Writable := by
  have hmembers : ∃ tokens, (Part.members members).Written tokens := by
    induction members with
    | nil => exact ⟨[], .noMember⟩
    | cons member rest ih =>
      rw [List.forall_mem_cons] at h
      obtain ⟨tokens, hv⟩ := h.1
      obtain ⟨more, hrest⟩ := ih h.2
      exact ⟨_, .member hv hrest⟩
  obtain ⟨tokens, hmembers⟩ := hmembers
  exact ⟨_, .object hmembers⟩

/-- A value that is `Value.Writable` is written as some text. -/
theorem Value.Writable.exists_isWrittenAs {v : Value} (h : v.Writable) :
    ∃ text, v.IsWrittenAs text := by
  obtain ⟨tokens, hwritten⟩ := h
  obtain ⟨cs, hcs⟩ := exists_spellsBy hwritten.exists_spelledAs
  refine ⟨.ofList cs, tokens, hwritten, ?_⟩
  rwa [Spells, String.toList_ofList]

/-- `Tree.ofText?` reads a text as a value if its tokens are those of the value, with strings that
may be spelled as other texts. -/
theorem Part.Written.exists_tree {f : String → String} {g : List Piece → List Piece}
    (hg : ∀ text : String, Piece.text (g (text.toList.map pieceOf)) = .ok (f text)) {v : Value}
    {tokens : List Token} (h : (Part.value v).Written tokens) {text : String}
    (hscan : scan text.toList = some (tokens.map (Token.respell g))) :
    ∃ tree, Tree.ofText? text = some tree ∧ tree.value = .ok (v.mapText f) := by
  obtain ⟨_, tree, hvalue, hrun⟩ := h.reads_respell hg
  refine ⟨tree, ?_, hvalue⟩
  rw [Tree.ofText?, hscan, Option.bind_some, Tree.ofTokens?, hrun]
  rfl

/-- The tokens of a value can be told apart in a text, as `Token.Joins` asks. -/
theorem Part.Written.isChain {part : Part} {tokens : List Token} (h : part.Written tokens) :
    tokens.IsChain Token.Joins := by
  have hchain : (tokens ++ []).IsChain Token.Joins :=
    h.isChain_append List.isChain_nil fun _ h => absurd h (by simp)
  rwa [List.append_nil] at hchain

/-- `Tree.ofText?` reads a text as the value that is written in it. -/
theorem Value.IsWrittenAs.exists_tree {v : Value} {text : String} (h : v.IsWrittenAs text) :
    ∃ tree, Tree.ofText? text = some tree ∧ tree.value = .ok v := by
  obtain ⟨tokens, hwritten, hspells⟩ := h
  have hsame : tokens.map (Token.respell id) = tokens := by
    refine (List.map_congr_left fun token _ => ?_).trans (List.map_id tokens)
    cases token <;> rfl
  have hscan : scan text.toList = some (tokens.map (Token.respell id)) := by
    rw [hsame, scan_of_spells hspells hwritten.isChain]
  have htree := hwritten.exists_tree (f := id) text_map_pieceOf hscan
  rwa [Value.mapText_id] at htree

end Gamebook.Json

namespace Gamebook

/-- `Story.ofText` gives what `Story.ofValue` gives for the value that is written in the text. -/
theorem Story.ofText_eq_ofValue {v : Json.Value} {text : String} (h : v.IsWrittenAs text) :
    Story.ofText text = Story.ofValue v := by
  have hin : v.IsIn text := h.exists_tree
  exact hin.ofText_eq

end Gamebook
