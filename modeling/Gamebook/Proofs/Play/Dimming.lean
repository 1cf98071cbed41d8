import Gamebook.Proofs.Play.Number
import Gamebook.Proofs.Play.Reply

/-!
# Dimming

A playthrough may be written with the choices dimmed that are not available. This changes how the
playthrough looks and nothing else. What is written is a list of spans, and only a span that lists
an unavailable choice may stand between the codes for dimming. Where no text of the story holds an
escape character, every such character in the output belongs to one of these codes, and the output
without the codes is what is written without dimming.

* `Span`, `writeSpans` and `Transcript.spans`: the output of a playthrough, span by span.
* `eraseCodes_writeSpans` and `inCode_of_writeSpans`: the codes around spans without escapes.
* `Book.forall_mem_events_playLines`: what holds of every event of a turn holds of every event of
  a playthrough.
* `Book.dimming_is_presentation`: the playthrough of any input with and without dimming.
-/

namespace Gamebook

/-! ### Codes -/

/-- A text without an escape character. -/
def Unescaped (text : String) : Prop := '\x1b' ∉ text.toList

instance {text : String} : Decidable (Unescaped text) :=
  inferInstanceAs (Decidable ('\x1b' ∉ text.toList))

private theorem unescaped_append {a b : String} :
    Unescaped (a ++ b) ↔ Unescaped a ∧ Unescaped b := by
  rw [Unescaped, String.toList_append, List.mem_append, not_or]
  rfl

/-- Deletes the codes `Style.dimOn` and `Style.allOff`. -/
def eraseCodes : List Char → List Char
  | '\x1b' :: '[' :: '2' :: 'm' :: rest => eraseCodes rest
  | '\x1b' :: '[' :: '0' :: 'm' :: rest => eraseCodes rest
  | c :: rest => c :: eraseCodes rest
  | [] => []

/-- `eraseCodes` leaves characters alone that are no escapes. -/
private theorem eraseCodes_append {cs : List Char} (h : '\x1b' ∉ cs) (rest : List Char) :
    eraseCodes (cs ++ rest) = cs ++ eraseCodes rest := by
  induction cs with
  | nil => rfl
  | cons c more ih =>
    rw [List.mem_cons, not_or] at h
    have hstep : eraseCodes (c :: (more ++ rest)) = c :: eraseCodes (more ++ rest) := by
      rw [eraseCodes]
      · rintro after rfl
        exact absurd rfl h.1
      · rintro after rfl
        exact absurd rfl h.1
    rw [List.cons_append, hstep, ih h.2, List.cons_append]

/-- Where nothing turns the attributes off, `Style.dimAgain` has nothing to do. -/
private theorem Style.dimAgain_eq_self {cs : List Char} (h : '\x1b' ∉ cs) : dimAgain cs = cs := by
  induction cs with
  | nil => rfl
  | cons c rest ih =>
    rw [List.mem_cons, not_or] at h
    rw [dimAgain, ih h.2]
    rintro after rfl
    exact absurd rfl h.1

/-- `Style.dimmed` puts a code before and a code behind a text without escapes. -/
private theorem Style.toList_dimmed {text : String} (h : Unescaped text) :
    (dimmed text).toList = dimOn ++ text.toList ++ allOff := by
  rw [dimmed, String.toList_ofList, dimAgain_eq_self h]

/-- The escape character between the parts `before` and `after` of an output belongs to one of the
codes around a `text` that is dimmed. -/
inductive InCode (text : List Char) : List Char → List Char → Prop where
  /-- It begins the code that turns dimming on before the text. -/
  | opens {before after rest : List Char}
      (h : '\x1b' :: after = Style.dimOn ++ text ++ Style.allOff ++ rest) :
      InCode text before after
  /-- It begins the code that turns all attributes off behind the text. -/
  | closes {before after front rest : List Char} (hbefore : before = front ++ Style.dimOn ++ text)
      (h : '\x1b' :: after = Style.allOff ++ rest) : InCode text before after

/-- What is written in front does not matter to `InCode`. -/
private theorem InCode.prepend {text before after : List Char} (h : InCode text before after)
    (front : List Char) : InCode text (front ++ before) after := by
  cases h with
  | opens h => exact .opens h
  | @closes first rest hbefore h =>
    have hfront : front ++ before = front ++ first ++ Style.dimOn ++ text := by
      simp only [hbefore, List.append_assoc]
    exact .closes hfront h

/-- A dimmed text without escapes has the escapes of its two codes only. -/
private theorem inCode_of_dimmed {text before after : List Char} (h : '\x1b' ∉ text)
    (heq : Style.dimOn ++ text ++ Style.allOff = before ++ '\x1b' :: after) (rest : List Char) :
    InCode text before (after ++ rest) := by
  cases before with
  | nil =>
    have hopen : '\x1b' :: (after ++ rest) = Style.dimOn ++ text ++ Style.allOff ++ rest := by
      rw [heq]
      rfl
    exact .opens hopen
  | cons c more =>
    have hinner : '\x1b' ∉ '[' :: '2' :: 'm' :: text := by simp [h]
    have hcons : '\x1b' :: (('[' :: '2' :: 'm' :: text) ++ '\x1b' :: ['[', '0', 'm']) =
        c :: (more ++ '\x1b' :: after) := by
      simpa [Style.dimOn, Style.allOff] using heq
    -- between the two codes there is no escape, so the one in question begins the second code
    obtain ⟨rfl, hsplit⟩ := List.cons.inj hcons
    obtain ⟨rfl, -, rfl⟩ := (List.append_cons_inj_of_notMem hinner (by decide)).mp hsplit
    have hbefore : '\x1b' :: '[' :: '2' :: 'm' :: text = [] ++ Style.dimOn ++ text := rfl
    exact .closes hbefore rfl

/-! ### Spans -/

/-- A span of output, and whether it may be dimmed. -/
structure Span where
  text : String
  dim : Bool

/-- A `Span` as it is written, with or without dimming. -/
def Span.write (dimming : Bool) (span : Span) : String :=
  if span.dim && dimming then Style.dimmed span.text else span.text

/-- Spans as `Span.write` writes them one after the other. -/
def writeSpans (dimming : Bool) (spans : List Span) : String :=
  String.join (spans.map (·.write dimming))

section Spans

variable {span : Span} {spans : List Span} {dimming : Bool}

/-- Without dimming `Span.write` gives the text. -/
@[simp]
theorem Span.write_false : span.write false = span.text := by
  rw [write, Bool.and_false]
  rfl

/-- A `Span` that is not to be dimmed is written as its text. -/
@[simp]
theorem Span.write_plain {text : String} : (Span.mk text false).write dimming = text := rfl

/-- With dimming `Span.write` puts codes around a span without escapes that is to be dimmed. -/
private theorem Span.toList_write_true (h : Unescaped span.text) : (span.write true).toList =
    if span.dim then Style.dimOn ++ span.text.toList ++ Style.allOff else span.text.toList := by
  rw [write, Bool.and_true]
  split
  · exact Style.toList_dimmed h
  · rfl

@[simp]
theorem writeSpans_nil : writeSpans dimming [] = "" := String.join_nil

@[simp]
theorem writeSpans_cons :
    writeSpans dimming (span :: spans) = span.write dimming ++ writeSpans dimming spans :=
  String.join_cons

private theorem writeSpans_append {others : List Span} :
    writeSpans dimming (spans ++ others) =
      writeSpans dimming spans ++ writeSpans dimming others := by
  rw [writeSpans, List.map_append, String.join_append]
  rfl

/-- Spans that are given part by part are written part by part. -/
private theorem writeSpans_flatMap {α : Type} (f : α → List Span) (parts : List α) :
    writeSpans dimming (parts.flatMap f) =
      String.join (parts.map fun part => writeSpans dimming (f part)) := by
  induction parts with
  | nil => rfl
  | cons part rest ih =>
    rw [List.flatMap_cons, writeSpans_append, ih, List.map_cons, String.join_cons]

/-- `eraseCodes` makes of what is written with dimming what is written without. -/
private theorem eraseCodes_writeSpans (h : ∀ span ∈ spans, Unescaped span.text) :
    eraseCodes (writeSpans true spans).toList = (writeSpans false spans).toList := by
  induction spans with
  | nil => rfl
  | cons span rest ih =>
    rw [List.forall_mem_cons] at h
    rw [writeSpans_cons, writeSpans_cons, String.toList_append, String.toList_append,
      Span.write_false, Span.toList_write_true h.1, ← ih h.2]
    split
    · have hcodes : eraseCodes (Style.dimOn ++ span.text.toList ++ Style.allOff ++
          (writeSpans true rest).toList) =
          eraseCodes (span.text.toList ++ (Style.allOff ++ (writeSpans true rest).toList)) := by
        rw [List.append_assoc, List.append_assoc]
        rfl
      rw [hcodes, eraseCodes_append h.1]
      rfl
    · exact eraseCodes_append h.1 _

/-- Every escape in what is written with dimming is `InCode` of a span. -/
private theorem inCode_of_writeSpans (h : ∀ span ∈ spans, Unescaped span.text)
    {before after : List Char} (heq : (writeSpans true spans).toList = before ++ '\x1b' :: after) :
    ∃ span ∈ spans, span.dim = true ∧ InCode span.text.toList before after := by
  induction spans generalizing before with
  | nil => exact absurd heq (by simp)
  | cons span rest ih =>
    rw [List.forall_mem_cons] at h
    rw [writeSpans_cons, String.toList_append] at heq
    -- behind the first span the escape is one of the rest, where it is found again
    have hrest : ∀ more, (writeSpans true rest).toList = more ++ '\x1b' :: after →
        before = (span.write true).toList ++ more →
          ∃ other ∈ span :: rest, other.dim = true ∧ InCode other.text.toList before after := by
      rintro more hmore rfl
      obtain ⟨other, hother, hdim, hcode⟩ := ih h.2 hmore
      exact ⟨other, List.mem_cons_of_mem _ hother, hdim, hcode.prepend _⟩
    rcases List.append_eq_append_iff.mp heq with ⟨more, hbefore, hmore⟩ | ⟨more, hwrite, hmore⟩
    · exact hrest more hmore hbefore
    · cases more with
      | nil => exact hrest [] hmore.symm (by rw [hwrite, List.append_nil, List.append_nil])
      | cons c others =>
        obtain ⟨rfl, rfl⟩ := List.cons.inj hmore
        rw [Span.toList_write_true h.1] at hwrite
        cases hdim : span.dim with
        | false =>
          rw [hdim, if_neg Bool.false_ne_true] at hwrite
          exact absurd (hwrite ▸ by simp) h.1
        | true =>
          rw [hdim, if_pos rfl] at hwrite
          exact ⟨span, List.mem_cons_self, hdim, inCode_of_dimmed h.1 hwrite _⟩

end Spans

/-! ### The spans of a playthrough -/

/-- The line of an `Entry`, which may be dimmed if it gives a reason. -/
def Entry.spans (fallback : String) (entry : Entry) : List Span :=
  [⟨(entry.listed fallback).line, (entry.listed fallback).reason?.isSome⟩, ⟨"\n", false⟩]

def Page.spans (fallback : String) (page : Page) : List Span :=
  ⟨page.text ++ "\n\n", false⟩ ::
    if page.isEnd then [⟨"Game ended.\n", false⟩]
    else page.entries.flatMap (·.spans fallback) ++ [⟨"\n> ", false⟩]

def Event.spans (fallback : String) : Event → List Span
  | .shown page => page.spans fallback
  | .replied reply => [⟨"\n" ++ reply.words (Console.plainStyle fallback), false⟩]
  | .closed => [⟨"\n", false⟩]

def Transcript.spans (fallback : String) (transcript : Transcript) : List Span :=
  transcript.events.flatMap (·.spans fallback)

section Render

variable (style : Style)

/-- Every `Style` writes the same spans, and dims them if it dims and shows colors. -/
private theorem Entry.render_eq_writeSpans (entry : Entry) : entry.render style =
    writeSpans (style.dim && style.color) (entry.spans style.fallback) := by
  rw [render_eq, spans, writeSpans_cons, writeSpans_cons, writeSpans_nil, Span.write_plain,
    String.append_empty]
  rfl

private theorem Page.render_eq_writeSpans (page : Page) : page.render style =
    writeSpans (style.dim && style.color) (page.spans style.fallback) := by
  rw [render, spans, writeSpans_cons, Span.write_plain]
  split
  · rw [writeSpans_cons, Span.write_plain, writeSpans_nil, String.append_empty]
  · rw [writeSpans_append, writeSpans_flatMap, writeSpans_cons, Span.write_plain, writeSpans_nil,
      String.append_empty, listing]
    simp only [Entry.render_eq_writeSpans]

/-- `Reply.words` do not depend on dimming. -/
private theorem Reply.words_eq (reply : Reply) :
    reply.words style = reply.words (Console.plainStyle style.fallback) := by
  cases reply with
  | answered answer => cases answer <;> rfl
  | notANumber | broken => rfl

private theorem Event.render_eq_writeSpans (event : Event) : event.render style =
    writeSpans (style.dim && style.color) (event.spans style.fallback) := by
  cases event with
  | shown page => exact page.render_eq_writeSpans style
  | replied reply =>
    rw [render, spans, writeSpans_cons, Span.write_plain, writeSpans_nil, String.append_empty,
      Reply.words_eq]
  | closed => rfl

private theorem Transcript.render_eq_writeSpans (transcript : Transcript) :
    transcript.render style =
    writeSpans (style.dim && style.color) (transcript.spans style.fallback) := by
  rw [render, spans, writeSpans_flatMap]
  simp only [Event.render_eq_writeSpans]

end Render

/-- An `Entry` is listed on a page that was shown. -/
def Transcript.Lists (transcript : Transcript) (entry : Entry) : Prop :=
  ∃ page, .shown page ∈ transcript.events ∧ page.isEnd = false ∧ entry ∈ page.entries

section Dim

variable {fallback : String} {span : Span}

/-- A span that may be dimmed is no plain text. -/
private theorem notMem_plain_of_dim {text : String} (hdim : span.dim = true) :
    span ∉ [Span.mk text false] := by
  intro hmem
  rw [List.mem_singleton.mp hmem] at hdim
  cases hdim

/-- What may be dimmed of an `Entry` is its line, and only if the entry is not available. -/
private theorem Entry.line_of_dim {entry : Entry} (h : span ∈ entry.spans fallback)
    (hdim : span.dim = true) :
    entry.availability.isAvailable = false ∧ span.text = (entry.listed fallback).line := by
  rw [spans, List.mem_cons] at h
  rcases h with rfl | hbreak
  · obtain ⟨reason, hreason⟩ := Option.isSome_iff_exists.mp hdim
    exact ⟨(Entry.reason?_listed_eq_some_iff.mp hreason).1, rfl⟩
  · exact absurd hbreak (notMem_plain_of_dim hdim)

/-- What may be dimmed of a `Page` is the line of an entry that it lists. -/
private theorem Page.exists_entry_of_dim {page : Page} (h : span ∈ page.spans fallback)
    (hdim : span.dim = true) :
    page.isEnd = false ∧ ∃ entry ∈ page.entries, span ∈ entry.spans fallback := by
  rw [spans, List.mem_cons] at h
  rcases h with rfl | hrest
  · cases hdim
  · split at hrest
    · exact absurd hrest (notMem_plain_of_dim hdim)
    · next hend =>
      rcases List.mem_append.mp hrest with hlisted | hprompt
      · exact ⟨Bool.eq_false_iff.mpr hend, List.mem_flatMap.mp hlisted⟩
      · exact absurd hprompt (notMem_plain_of_dim hdim)

/-- What may be dimmed of a `Transcript` is the line of an entry that is not available. -/
private theorem Transcript.exists_entry_of_dim {transcript : Transcript}
    (h : span ∈ transcript.spans fallback) (hdim : span.dim = true) :
    ∃ entry, transcript.Lists entry ∧ entry.availability.isAvailable = false ∧
      span.text = (entry.listed fallback).line := by
  obtain ⟨event, hevent, hspan⟩ := List.mem_flatMap.mp h
  cases event with
  | shown page =>
    obtain ⟨hend, entry, hentry, hline⟩ := Page.exists_entry_of_dim hspan hdim
    exact ⟨entry, ⟨page, hevent, hend, hentry⟩, Entry.line_of_dim hline hdim⟩
  | replied reply | closed => exact absurd hspan (notMem_plain_of_dim hdim)

end Dim

/-! ### Stories without escapes -/

/-- A scene of which every text that is ever shown is `Unescaped`. -/
structure Scene.IsUnescaped (scene : Scene) : Prop where
  text : Unescaped scene.text
  choices : ∀ choice ∈ scene.choices, Unescaped choice.text
  reasons : ∀ choice ∈ scene.choices, ∀ reason ∈ choice.disabledReason, Unescaped reason

private theorem unescaped_toString (n : Nat) : Unescaped (toString n) := by
  intro hmem
  exact absurd (Selection.isDigit_of_mem_toString hmem) (by decide)

/-- A `Listed.line` is `Unescaped` unless its text or its reason is not. -/
private theorem Listed.unescaped_line {item : Listed} (htext : Unescaped item.text)
    (hreason : ∀ reason ∈ item.reason?, Unescaped reason) : Unescaped item.line := by
  have hnumber : Unescaped (toString item.number.toNat ++ ". " ++ item.text) :=
    unescaped_append.mpr ⟨unescaped_append.mpr ⟨unescaped_toString _, by decide⟩, htext⟩
  rw [line, unescaped_append]
  refine ⟨hnumber, ?_⟩
  cases hgiven : item.reason? with
  | none => decide
  | some reason =>
    have hwords : Unescaped reason := hreason reason hgiven
    exact unescaped_append.mpr ⟨unescaped_append.mpr ⟨by decide, hwords⟩, by decide⟩

namespace Book

variable {book : Book} {player after : Player} {scene : Scene} {number : UInt32} {text : String}
  {given : Option String}

/-- An answer in a `Reply` is the answer to the selection of the number that the line gives. -/
private theorem exists_select_of_reply {answer : Answer}
    (h : book.reply player text = (after, .ok (.answered answer))) :
    ∃ number, Selection.ofText? text = some number ∧
      (book.select player number).2 = .ok answer := by
  have hresult := congrArg Prod.snd h
  cases hnumber : Selection.ofText? text with
  | none =>
    rw [reply_of_none hnumber] at hresult
    cases hresult
  | some number =>
    rw [reply_of_some hnumber] at hresult
    refine ⟨number, rfl, ?_⟩
    cases hselect : (book.select player number).2 with
    | error error =>
      rw [hselect] at hresult
      cases hresult
    | ok same =>
      rw [hselect] at hresult
      cases hresult
      rfl

/-- The reason that `Book.select` answers with is that of a choice of the scene. -/
private theorem exists_choice_of_select (hget : book.get player.scene = .ok scene)
    (h : (book.select player number).2 = .ok (.disabled given)) :
    ∃ choice ∈ scene.choices, choice.disabledReason = given := by
  rcases select_cases hget number with ⟨-, heq⟩ | ⟨choice, -, hchoice, ⟨-, heq⟩ | ⟨-, heq⟩⟩
  · rw [heq] at h
    cases h
  · rw [heq] at h
    cases h
    exact ⟨choice, List.mem_of_find?_eq_some hchoice, rfl⟩
  · rcases player.result_carryOut choice.effects with hdone | ⟨effect, -, -, hblank⟩
    · rw [heq, hdone] at h
      cases h
    · rw [heq, hblank] at h
      cases h

end Book

section Story

variable {fallback : String} (hfallback : Unescaped fallback)

include hfallback

/-- The author's reason or the fallback is `Unescaped` when both are. -/
private theorem unescaped_getD {given : Option String} (h : ∀ reason ∈ given, Unescaped reason) :
    Unescaped (given.getD fallback) := by
  cases given with
  | none => exact hfallback
  | some reason => exact h reason rfl

/-- `Reply.words` are `Unescaped` unless a reason is not. -/
private theorem Reply.unescaped_words {reply : Reply}
    (h : ∀ given, reply = .answered (.disabled given) → ∀ reason ∈ given, Unescaped reason) :
    Unescaped (reply.words (Console.plainStyle fallback)) := by
  have hconstant : Unescaped "Invalid input. Enter a number.\n\n" ∧ Unescaped "\n" ∧
      Unescaped "No such option.\n\n" ∧ Unescaped "" := by decide
  obtain ⟨hinvalid, happlied, hunknown, hbroken⟩ := hconstant
  rcases reply with - | (- | - | given) | -
  · exact hinvalid
  · exact happlied
  · exact hunknown
  · exact unescaped_append.mpr ⟨unescaped_getD hfallback (h given rfl), by decide⟩
  · exact hbroken

namespace Scene.IsUnescaped

variable {scene : Scene} (h : scene.IsUnescaped)

include h

/-- A choice of a scene that `Scene.IsUnescaped` is listed without escapes. -/
private theorem line_listed {choice : Choice} (hchoice : choice ∈ scene.choices) (flags : FlagSet) :
    Unescaped (choice.listed fallback flags).line := by
  refine Listed.unescaped_line (h.choices choice hchoice) fun reason hreason => ?_
  have hwords := unescaped_getD hfallback (h.reasons choice hchoice)
  rw [Choice.listed] at hreason
  dsimp only at hreason
  split at hreason
  · cases hreason
  · cases hreason
    exact hwords

/-- The page of a scene that `Scene.IsUnescaped` is written in spans without escapes. -/
private theorem spans_page (player : Player) :
    ∀ span ∈ (scene.page player).spans fallback, Unescaped span.text := by
  have hentries : ∀ span ∈ (scene.page player).entries.flatMap (·.spans fallback),
      Unescaped span.text := by
    intro span hspan
    obtain ⟨entry, hentry, hline⟩ := List.mem_flatMap.mp hspan
    obtain ⟨choice, hchoice, rfl⟩ := Page.mem_entries_iff.mp hentry
    rw [Entry.spans, Choice.listed_entry, List.mem_cons, List.mem_singleton] at hline
    rcases hline with rfl | rfl
    · exact h.line_listed hfallback hchoice player.flags
    · decide
  have htext : Unescaped (scene.text ++ "\n\n") := unescaped_append.mpr ⟨h.text, by decide⟩
  rw [Page.spans, List.forall_mem_cons]
  refine ⟨htext, ?_⟩
  split
  · rw [List.forall_mem_singleton]
    decide
  · rw [List.forall_mem_append, List.forall_mem_singleton]
    exact ⟨hentries, by decide⟩

/-- A line that is typed in a scene that `Scene.IsUnescaped` is replied to without escapes. -/
private theorem words_reply {book : Book} {player after : Player} {text : String} {reply : Reply}
    (hget : book.get player.scene = .ok scene)
    (hreply : book.reply player text = (after, .ok reply)) :
    Unescaped (reply.words (Console.plainStyle fallback)) := by
  refine Reply.unescaped_words hfallback ?_
  rintro given rfl
  obtain ⟨number, -, hselect⟩ := Book.exists_select_of_reply hreply
  obtain ⟨choice, hchoice, rfl⟩ := Book.exists_choice_of_select hget hselect
  exact h.reasons choice hchoice

end Scene.IsUnescaped

end Story

namespace Book

/-! ### Every event of a playthrough -/

/-- What holds of every page of a scene of the book, of every `Reply` that is made there, and of the
two other events holds of every `Event` of a playthrough. -/
theorem forall_mem_events_playLines {book : Book} {P : Event → Prop}
    (hshown : ∀ {player scene}, book.get player.scene = .ok scene →
      P (.shown (scene.page player)))
    (hreplied : ∀ {player scene text after reply}, book.get player.scene = .ok scene →
      book.reply player text = (after, .ok reply) → P (.replied reply))
    (hbroken : P (.replied .broken)) (hclosed : P .closed) (player : Player)
    (lines : List (List UInt8)) : ∀ event ∈ (book.playLines player lines).events, P event := by
  obtain ⟨before, rest, events, other, transcript, rfl, hturns, hlast⟩ :=
    exists_turns book player lines
  rw [hturns.playLines_append, hlast.playLines_eq, Transcript.events_after, List.forall_mem_append]
  constructor
  · clear hlast
    induction hturns with
    | nil => exact List.forall_mem_nil _
    | cons hget _ _ hreply _ ih =>
      rw [List.forall_mem_cons, List.forall_mem_cons]
      exact ⟨hshown hget, hreplied hget hreply, ih⟩
  · cases hlast with
    | lost => exact List.forall_mem_nil _
    | finished hget | notText hget =>
      rw [List.forall_mem_singleton]
      exact hshown hget
    | inputEnded hget =>
      rw [List.forall_mem_cons, List.forall_mem_singleton]
      exact ⟨hshown hget, hclosed⟩
    | failed hget =>
      rw [List.forall_mem_cons, List.forall_mem_singleton]
      exact ⟨hshown hget, hbroken⟩

/-- In a book without escapes the `Transcript.spans` of every playthrough are `Unescaped`. -/
private theorem unescaped_of_mem_spans {book : Book} {fallback : String}
    (hfallback : Unescaped fallback)
    (hscenes : ∀ (player : Player) scene, book.get player.scene = .ok scene → scene.IsUnescaped)
    (input : List UInt8) :
    ∀ span ∈ (book.play input).spans fallback, Unescaped span.text := by
  intro span hspan
  obtain ⟨event, hevent, hmem⟩ := List.mem_flatMap.mp hspan
  refine forall_mem_events_playLines
    (P := fun event => ∀ span ∈ event.spans fallback, Unescaped span.text) ?_ ?_ ?_ ?_ _ _
    event hevent span hmem
  · intro player scene hget
    exact (hscenes player scene hget).spans_page hfallback player
  · intro player scene text after reply hget hreply
    have hwords := (hscenes player scene hget).words_reply hfallback hget hreply
    rw [Event.spans, List.forall_mem_singleton]
    exact unescaped_append.mpr ⟨by decide, hwords⟩
  · rw [Event.spans, List.forall_mem_singleton]
    exact unescaped_append.mpr ⟨by decide, Reply.unescaped_words hfallback nofun⟩
  · rw [Event.spans, List.forall_mem_singleton]
    decide

/-! ### With and without dimming -/

/-- What a playthrough of an input writes in a `Style`, and what it returns. -/
def perform (book : Book) (style : Style) (input : List UInt8) : String × Except String Unit :=
  ((book.play input).render style, (book.play input).ending.result)

end Book

/-- How what is written of a `Transcript` with dimming differs from what is written without. -/
structure Transcript.DiffersByDimming (transcript : Transcript) (fallback dimmed plain : String) :
    Prop where
  /-- Deleting the codes leaves what is written without dimming. -/
  erased : eraseCodes dimmed.toList = plain.toList
  /-- Every escape belongs to a code around the line of a choice that is not available. -/
  inCode : ∀ before after, dimmed.toList = before ++ '\x1b' :: after →
    ∃ entry, transcript.Lists entry ∧ entry.availability.isAvailable = false ∧
      InCode (entry.listed fallback).line.toList before after
  /-- Both are written in the same spans, and a span that is written differently is the line of a
  choice that is not available. -/
  same_spans : plain = String.join ((transcript.spans fallback).map (·.text)) ∧
    dimmed = String.join ((transcript.spans fallback).map (·.write true)) ∧
    ∀ span ∈ transcript.spans fallback, span.write true ≠ span.text →
      ∃ entry, transcript.Lists entry ∧ entry.availability.isAvailable = false ∧
        span.text = (entry.listed fallback).line

namespace Book

/-- In the book of a story without escapes, with words without escapes for choices whose author gave
no reason, the `Book.play` of any input returns the same with and without dimming, and what it
writes differs by the codes around the lines of choices that are not available and by nothing else,
as `Transcript.DiffersByDimming` says. -/
theorem dimming_is_presentation {policy : DeadEndPolicy} {story : Story} {book : Book}
    (hbook : ofStory policy story = .ok book) (hstory : ∀ scene ∈ story.scenes, scene.IsUnescaped)
    {fallback : String} (hfallback : Unescaped fallback) (color : Bool) (input : List UInt8) :
    (book.perform ⟨fallback, true, true⟩ input).2 =
        (book.perform ⟨fallback, false, color⟩ input).2 ∧
      (book.play input).DiffersByDimming fallback (book.perform ⟨fallback, true, true⟩ input).1
        (book.perform ⟨fallback, false, color⟩ input).1 := by
  have hspans : ∀ span ∈ (book.play input).spans fallback, Unescaped span.text := by
    refine unescaped_of_mem_spans hfallback (fun player scene hget => ?_) input
    have hmem := ((wellFormed_of_ofStory hbook).get_eq_ok_iff.mp hget).1
    rw [scenes_of_ofStory hbook] at hmem
    exact hstory scene hmem
  have hdimmed : (book.perform ⟨fallback, true, true⟩ input).1 =
      writeSpans true ((book.play input).spans fallback) :=
    Transcript.render_eq_writeSpans _ _
  have hplain : (book.perform ⟨fallback, false, color⟩ input).1 =
      writeSpans false ((book.play input).spans fallback) :=
    Transcript.render_eq_writeSpans _ _
  refine ⟨rfl, ?_⟩
  rw [hdimmed, hplain]
  refine ⟨eraseCodes_writeSpans hspans, fun before after heq => ?_, ?_, rfl, ?_⟩
  · obtain ⟨span, hspan, hdim, hcode⟩ := inCode_of_writeSpans hspans heq
    obtain ⟨entry, hlists, hclosed, hline⟩ := Transcript.exists_entry_of_dim hspan hdim
    exact ⟨entry, hlists, hclosed, hline ▸ hcode⟩
  · simp only [writeSpans, Span.write_false]
  · intro span hspan hne
    refine Transcript.exists_entry_of_dim hspan ?_
    by_contra hdim
    rw [Bool.not_eq_true] at hdim
    exact hne (by rw [Span.write, hdim, Bool.false_and]; rfl)

/-- No text of `cellStory` holds an escape character. -/
theorem isUnescaped_cellStory : ∀ scene ∈ cellStory.scenes, scene.IsUnescaped := by
  intro scene hscene
  refine ⟨?_, ?_, ?_⟩ <;> revert scene <;> decide

/-- The way out of `cellBook` is written with and without dimming. -/
theorem dimming_is_presentation_of_bareInput : ofStory .warn cellStory = .ok cellBook ∧
    (∀ scene ∈ cellStory.scenes, scene.IsUnescaped) ∧ Unescaped defaultFallback ∧
    (cellBook.perform ⟨defaultFallback, true, true⟩ bareInput).2 =
        (cellBook.perform ⟨defaultFallback, false, true⟩ bareInput).2 ∧
      (cellBook.play bareInput).DiffersByDimming defaultFallback
        (cellBook.perform ⟨defaultFallback, true, true⟩ bareInput).1
        (cellBook.perform ⟨defaultFallback, false, true⟩ bareInput).1 := by
  have hfallback : Unescaped defaultFallback := by decide
  exact ⟨ofStory_cellStory, isUnescaped_cellStory, hfallback,
    dimming_is_presentation ofStory_cellStory isUnescaped_cellStory hfallback true bareInput⟩

end Book

end Gamebook
