import Gamebook.Proofs.Play.Page
import Gamebook.Proofs.Play.Turns

/-!
# What is listed and what is replied

The listing on a page and the reply to a typed line are written by different parts of a
playthrough. A player who reads the listing knows the reply all the same. A choice that is listed
without a reason is taken. One that is listed with a reason is refused with that reason, be it the
author's or the words that stand in for it. A number that is not listed, or a line that is no
number, is refused in words of its own, and after a refusal the player reads the same page again.

* `Listed` is a line of a listing, and `Entry.render_eq` and `Page.listing_of_plain` say that a
  page lists such lines.
* `Book.Refuses` and `Book.Performs`: what a playthrough writes for a line that is refused and for
  one that is taken.
* `Book.replies_as_listed`: the replies in every reachable state that is not at an end.
-/

namespace Gamebook

/-! ### Listings -/

/-- A choice as it is listed, with a reason exactly where it cannot be taken. -/
structure Listed where
  number : UInt32
  text : String
  reason? : Option String
deriving DecidableEq

/-- The line that lists a choice, with the `Listed.reason?` in brackets. -/
def Listed.line (item : Listed) : String :=
  toString item.number.toNat ++ ". " ++ item.text ++
    match item.reason? with
    | none => ""
    | some reason => " (" ++ reason ++ ")"

/-- How a choice is `Listed` for a player with these flags. The fallback stands in for the reason of
an author who gave none. -/
def Choice.listed (choice : Choice) (fallback : String) (flags : FlagSet) : Listed :=
  ⟨choice.number, choice.text,
    if choice.isMet flags then none else some (choice.disabledReason.getD fallback)⟩

/-- How an `Entry` of a page is `Listed`. -/
def Entry.listed (fallback : String) (entry : Entry) : Listed :=
  ⟨entry.number, entry.text,
    match entry.availability with
    | .available => none
    | .unavailable reason => some (reason.getD fallback)⟩

/-- The choices of a scene as they are `Listed`, one line for each, in the order of their
numbers. -/
structure Scene.IsListedAs (scene : Scene) (fallback : String) (flags : FlagSet)
    (items : List Listed) : Prop where
  perm : items.Perm (scene.choices.map (·.listed fallback flags))
  ascending : items.Pairwise fun a b => a.number < b.number

/-- What is shown of a scene with a listing: its text, the listing and a prompt. -/
def Scene.prompt (scene : Scene) (items : List Listed) : String :=
  scene.text ++ "\n\n" ++ (String.join (items.map fun item => item.line ++ "\n") ++ "\n> ")

section Listing

variable {scene : Scene} {choice : Choice} {entry : Entry} {player : Player} {flags : FlagSet}
  {style : Style} {fallback : String}

/-- The `Choice.entry` is listed as the choice is. -/
theorem Choice.listed_entry :
    (choice.entry flags).listed fallback = choice.listed fallback flags := by
  rw [entry, Entry.listed, listed, availability]
  cases choice.isMet flags <;> rfl

/-- An `Entry` is listed without a reason exactly when it is available. -/
private theorem Entry.reason?_listed_eq_none_iff :
    (entry.listed fallback).reason? = none ↔ entry.availability.isAvailable = true := by
  obtain ⟨number, text, availability⟩ := entry
  cases availability <;> simp [listed, Availability.isAvailable]

/-- An `Entry` that is not available is listed with the reason it gives, or with the fallback. -/
theorem Entry.reason?_listed_eq_some_iff {reason : String} :
    (entry.listed fallback).reason? = some reason ↔
      entry.availability.isAvailable = false ∧
        entry.availability.reason?.getD fallback = reason := by
  obtain ⟨number, text, availability⟩ := entry
  cases availability <;> simp [listed, Availability.isAvailable, Availability.reason?]

/-- `Entry.render` writes an entry as it is listed, dimmed if it has a reason and the style asks for
it. -/
theorem Entry.render_eq : entry.render style =
    (if (entry.listed style.fallback).reason?.isSome && (style.dim && style.color) then
      Style.dimmed (entry.listed style.fallback).line
    else (entry.listed style.fallback).line) ++ "\n" := by
  obtain ⟨number, text, availability⟩ := entry
  cases availability with
  | available => rw [render, listed, Listed.line, String.append_empty]; rfl
  | unavailable reason =>
    simp only [render, listed, Listed.line, Style.reason, Option.isSome_some, Bool.true_and,
      String.append_assoc]

/-- Without dimming `Page.listing` lists the entries line by line. -/
private theorem Page.listing_of_plain {page : Page} (hplain : style.dim = false) :
    page.listing style =
      String.join ((page.entries.map (·.listed style.fallback)).map fun item =>
        item.line ++ "\n") := by
  rw [listing, List.map_map]
  refine congrArg String.join (List.map_congr_left fun entry _ => ?_)
  rw [Entry.render_eq, hplain, Bool.false_and, Bool.and_false]
  rfl

/-- The `Page.render` of a scene that goes on is the `Scene.prompt` with the listing of its
entries. -/
private theorem Scene.render_page (hplain : style.dim = false) (hend : scene.isEnd = false) :
    (scene.page player).render style =
      scene.prompt ((scene.page player).entries.map (·.listed style.fallback)) := by
  rw [Page.render, Scene.isEnd_page, if_neg (by simp [hend]), Page.listing_of_plain hplain]
  rfl

/-- The entries of a playable scene are a listing of it. -/
private theorem Scene.Playable.isListedAs {ids : List String} (h : scene.Playable ids) :
    scene.IsListedAs fallback player.flags
      ((scene.page player).entries.map (·.listed fallback)) where
  perm := by
    have hentries : (scene.page player).entries.Perm (scene.choices.map (·.entry player.flags)) :=
      Page.entries_perm
    have hperm := hentries.map (·.listed fallback)
    rw [List.map_map] at hperm
    exact hperm.trans (.of_eq (List.map_congr_left fun choice _ => choice.listed_entry))
  ascending := by
    have hle : (scene.page player).entries.Pairwise fun a b => a.number ≤ b.number :=
      Page.pairwise_entries
    have hne : (scene.page player).entries.Pairwise fun a b => a.number ≠ b.number :=
      List.pairwise_map.mp h.nodup_entries
    rw [List.pairwise_map]
    exact (hle.and hne).imp fun hboth => UInt32.lt_of_le_of_ne hboth.1 hboth.2

end Listing

namespace Book

variable {book : Book} {player after : Player} {scene : Scene} {style : Style}
  {line : List UInt8} {text words shown : String} {reply : Reply}

/-! ### What a playthrough writes for a line -/

/-- A line is refused with some words. They are written below what is shown, which is then shown
again, and all goes on as if the line had not been typed. -/
def Refuses (book : Book) (style : Style) (player : Player) (shown : String) (line : List UInt8)
    (words : String) : Prop :=
  ∀ rest, (book.playLines player (line :: rest)).ending = (book.playLines player rest).ending ∧
    ∃ later, (book.playLines player rest).render style = shown ++ later ∧
      (book.playLines player (line :: rest)).render style =
        shown ++ "\n" ++ words ++ "\n\n" ++ (shown ++ later)

/-- A line selects a number, and its choice is taken. Nothing but empty lines is written, and all
goes on from where the effects lead, unless one of them has a blank value. -/
def Performs (book : Book) (style : Style) (player : Player) (shown : String)
    (line : List UInt8) (number : UInt32) : Prop :=
  (∃ after, book.select player number = (after, .ok .applied) ∧
    ∀ rest, (book.playLines player (line :: rest)).ending = (book.playLines after rest).ending ∧
      (book.playLines player (line :: rest)).render style =
        shown ++ "\n\n" ++ (book.playLines after rest).render style) ∨
  ∃ kind, (book.select player number).2 = .error (.invalid (.blankValue kind)) ∧
    ∀ rest, (book.playLines player (line :: rest)).ending =
        .failed (.invalid (.blankValue kind)) ∧
      (book.playLines player (line :: rest)).render style = shown ++ "\n"

section Line

variable (hget : book.get player.scene = .ok scene) (hend : scene.isEnd = false)
  (hline : decodeText? line = some text)

include hget hend hline

/-- A `Reply` stands between the page where the line was typed and what comes after. -/
private theorem render_playLines_of_reply (style : Style)
    (hreply : book.reply player text = (after, .ok reply)) (rest : List (List UInt8)) :
    (book.playLines player (line :: rest)).render style =
      (scene.page player).render style ++ ("\n" ++ reply.words style) ++
        (book.playLines after rest).render style := by
  rw [playLines_of_reply hget hend hline hreply, Transcript.render_after]
  simp only [List.map_cons, List.map_nil, String.join_cons, String.join_nil, String.append_empty,
    Event.render]

/-- A `Reply` that leaves the player alone is a refusal in its words. -/
private theorem refuses_of_reply (hreply : book.reply player text = (player, .ok reply))
    (hwords : reply.words style = words ++ "\n\n") :
    book.Refuses style player ((scene.page player).render style) line words := by
  intro rest
  obtain ⟨events, ending, hshown⟩ := exists_playLines_eq_shown hget hend rest
  have hlater : (book.playLines player rest).render style =
      (scene.page player).render style ++ (Transcript.mk events ending).render style := by
    rw [hshown, Transcript.render_cons]
    rfl
  refine ⟨?_, _, hlater, ?_⟩
  · rw [playLines_of_reply hget hend hline hreply, Transcript.ending_after]
  · rw [render_playLines_of_reply hget hend hline style hreply, hlater, hwords]
    simp only [String.append_assoc]

/-- A selection that is carried out, to the end or up to an effect with a blank value, `Performs`
its line. -/
private theorem performs_of_select {number : UInt32}
    (hnumber : Selection.ofText? text = some number)
    (hselect : (book.select player number).2 = .ok .applied ∨
      ∃ kind, (book.select player number).2 = .error (.invalid (.blankValue kind))) :
    book.Performs style player ((scene.page player).render style) line number := by
  refine hselect.imp (fun happlied => ?_) fun ⟨kind, hblank⟩ => ?_
  · have hreply : book.reply player text =
        ((book.select player number).1, .ok (.answered .applied)) := by
      rw [reply_of_some hnumber, happlied]
      rfl
    refine ⟨_, Prod.ext rfl happlied, fun rest => ⟨?_, ?_⟩⟩
    · rw [playLines_of_reply hget hend hline hreply, Transcript.ending_after]
    · exact render_playLines_of_reply hget hend hline style hreply rest
  · have hreply : book.reply player text =
        ((book.select player number).1, .error (.invalid (.blankValue kind))) := by
      rw [reply_of_some hnumber, hblank]
      rfl
    refine ⟨kind, hblank, fun rest => ?_⟩
    rw [playLines_of_error hget hend hline hreply]
    refine ⟨rfl, ?_⟩
    rw [Transcript.render_cons, Transcript.render_cons, Transcript.render_nil]
    rfl

end Line

/-! ### The agreement -/

/-- A typed line is replied to as what is shown leads to expect. -/
structure RepliesAsListed (book : Book) (style : Style) (player : Player) (shown : String)
    (items : List Listed) (line : List UInt8) (text : String) : Prop where
  /-- A choice that is listed without a reason is taken. -/
  available : ∀ item ∈ items, Selection.ofText? text = some item.number → item.reason? = none →
    book.Performs style player shown line item.number
  /-- A choice that is listed with a reason is refused with it. -/
  unavailable : ∀ item ∈ items, Selection.ofText? text = some item.number →
    ∀ reason, item.reason? = some reason → book.Refuses style player shown line reason
  unlisted : ∀ number, Selection.ofText? text = some number →
    (∀ item ∈ items, item.number ≠ number) →
      book.Refuses style player shown line "No such option."
  notANumber : Selection.ofText? text = none →
    book.Refuses style player shown line "Invalid input. Enter a number."

/-- Where a page `Foretells` every selection, the listing of its entries foretells every reply. -/
private theorem repliesAsListed_of_get {ids : List String} (style : Style)
    (hget : book.get player.scene = .ok scene) (hplay : scene.Playable ids)
    (hend : scene.isEnd = false) (hline : decodeText? line = some text) :
    book.RepliesAsListed style player ((scene.page player).render style)
      ((scene.page player).entries.map (·.listed style.fallback)) line text where
  available item hitem hnumber hopen := by
    obtain ⟨entry, hentry, rfl⟩ := List.mem_map.mp hitem
    have hforetold := (foretells_of_get hget hplay hend entry.number).available entry hentry rfl
    obtain ⟨-, _, _, -, -, -, -, hresult⟩ :=
      hforetold (Entry.reason?_listed_eq_none_iff.mp hopen)
    refine performs_of_select hget hend hline hnumber ?_
    exact hresult.imp And.right fun ⟨kind, hblank⟩ => ⟨kind, hblank.2⟩
  unavailable item hitem hnumber reason hreason := by
    obtain ⟨entry, hentry, rfl⟩ := List.mem_map.mp hitem
    obtain ⟨hclosed, rfl⟩ := Entry.reason?_listed_eq_some_iff.mp hreason
    have hsame : Selection.ofText? text = some entry.number := hnumber
    have hforetold := (foretells_of_get hget hplay hend entry.number).unavailable entry hentry rfl
    have hreply : book.reply player text =
        (player, .ok (.answered (.disabled entry.availability.reason?))) := by
      rw [reply_of_some hsame, hforetold hclosed]
      rfl
    exact refuses_of_reply hget hend hline hreply rfl
  unlisted number hnumber hnone := by
    have hforetold := (foretells_of_get hget hplay hend number).unlisted fun entry hentry =>
      hnone _ (List.mem_map_of_mem hentry)
    have hreply : book.reply player text = (player, .ok (.answered (.noSuchChoice number))) := by
      rw [reply_of_some hnumber, hforetold]
      rfl
    exact refuses_of_reply hget hend hline hreply rfl
  notANumber hnone := refuses_of_reply hget hend hline (reply_of_none hnone) rfl

/-- In every reachable state of a book that is not at an end, a playthrough without dimming shows
the text of the scene and lists each of its choices once, in the order of their numbers, and
whatever is typed then is replied to as the listing says, which is `Book.RepliesAsListed`. -/
theorem replies_as_listed {policy : DeadEndPolicy} {story : Story}
    (hbook : ofStory policy story = .ok book) (hplayer : book.Reachable player)
    (hopen : book.isFinished player = .ok false) (style : Style) (hplain : style.dim = false) :
    ∃ scene items, book.get player.scene = .ok scene ∧
      scene.IsListedAs style.fallback player.flags items ∧
      ∀ line text, decodeText? line = some text →
        book.RepliesAsListed style player (scene.prompt items) items line text := by
  have hwell := wellFormed_of_ofStory hbook
  obtain ⟨scene, hmem, -, hget⟩ := hwell.exists_get_of_reachable hplayer
  have hplay := hwell.scenes scene hmem
  rw [isFinished_of_get hget] at hopen
  have hend : scene.isEnd = false := Except.ok.inj hopen
  refine ⟨scene, _, hget, hplay.isListedAs, fun line text hline => ?_⟩
  have hreplies := repliesAsListed_of_get style hget hplay hend hline
  rwa [Scene.render_page hplain hend] at hreplies

/-- Once the pin is found in `cellBook`, the straw is listed with the fallback, as its author gave
no reason, and the line that selects it is refused with the same words. -/
theorem replies_as_listed_of_pin : ofStory .warn cellStory = .ok cellBook ∧
    cellBook.Reachable ⟨"cell", .ofList ["pin"]⟩ ∧
    cellBook.isFinished ⟨"cell", .ofList ["pin"]⟩ = .ok false ∧
    ∃ scene items, cellBook.get "cell" = .ok scene ∧
      scene.IsListedAs "Not now." (.ofList ["pin"]) items ∧
      ⟨2, "Search the straw", some "Not now."⟩ ∈ items ∧
      cellBook.Refuses ⟨"Not now.", false, true⟩ ⟨"cell", .ofList ["pin"]⟩ (scene.prompt items)
        ("2\n".toList.flatMap String.utf8EncodeChar) "Not now." := by
  have hplayer : cellBook.Reachable ⟨"cell", .ofList ["pin"]⟩ := ⟨[2], by decide⟩
  have hopen : cellBook.isFinished ⟨"cell", .ofList ["pin"]⟩ = .ok false := by decide
  obtain ⟨scene, items, hget, hlisted, hreplies⟩ :=
    replies_as_listed ofStory_cellStory hplayer hopen ⟨"Not now.", false, true⟩ rfl
  have hscene : cellBook.get "cell" = .ok (cellStory.scenes.head (by decide)) := by decide
  cases hget.symm.trans hscene
  have hstraw : ⟨2, "Search the straw", some "Not now."⟩ ∈ items :=
    hlisted.perm.mem_iff.mpr (by decide)
  have htyped := hreplies _ _ (decodeText?_flatMap "2\n".toList)
  exact ⟨ofStory_cellStory, hplayer, hopen, _, items, hget, hlisted, hstraw,
    htyped.unavailable _ hstraw (by decide) _ rfl⟩

end Book

end Gamebook
