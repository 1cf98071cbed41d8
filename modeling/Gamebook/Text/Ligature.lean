import Gamebook.Text.CharWidth
import Gamebook.Text.Emoji

/-!
# Ligatures

In some scripts neighbouring letters are drawn as one sign, which takes fewer columns than the
letters do by themselves. A ligature is recognised from its end: the last letter opens it, and
what stands before that letter may complete it.

* `Ligature.ofChar?` opens a ligature, and `Ligature.extend?` adds a character in front of it.
-/

namespace Gamebook.Text

/-- The forms of alef. -/
def alefRanges : Ranges :=
  [(0x622, 0x623), (0x625, 0x625), (0x627, 0x627), (0x671, 0x673), (0x675, 0x675), (0x773, 0x774),
    (0x870, 0x882)]

/-- The forms of lam. -/
def lamRanges : Ranges :=
  [(0x644, 0x644), (0x6B5, 0x6B8), (0x76A, 0x76A), (0x8A6, 0x8A6), (0x8C7, 0x8C7)]

/-- The letters of Khmer that are written below the one before them. -/
def subscriptRanges : Ranges :=
  [(0x1780, 0x1782), (0x1784, 0x1787), (0x1789, 0x178C), (0x178E, 0x1793), (0x1795, 0x1798),
    (0x179B, 0x179D), (0x17A0, 0x17A0), (0x17A2, 0x17A2), (0x17A7, 0x17A7), (0x17AB, 0x17AC),
    (0x17AF, 0x17AF)]

/-- The consonants of Tifinagh. -/
def tifinaghRanges : Ranges := [(0x2D31, 0x2D65), (0x2D6F, 0x2D6F)]

/-- The ranges of characters without width across which letters of Arabic do not join. -/
def separatingRanges : Ranges :=
  [(0x605, 0x605), (0x890, 0x891), (0x8E2, 0x8E2), (0x9BE, 0x9BE), (0x9D7, 0x9D7), (0xB3E, 0xB3E),
    (0xB57, 0xB57), (0xBBE, 0xBBE), (0xBD7, 0xBD7), (0xCC0, 0xCC0), (0xCC2, 0xCC2), (0xCC7, 0xCC8),
    (0xCCA, 0xCCB), (0xCD5, 0xCD6), (0xD3E, 0xD3E), (0xD4E, 0xD4E), (0xD57, 0xD57), (0xDCF, 0xDCF),
    (0xDDF, 0xDDF), (0x1160, 0x11FF), (0x1715, 0x1715), (0x1734, 0x1734), (0x180E, 0x180E),
    (0x1B35, 0x1B35), (0x1B3B, 0x1B3B), (0x1B3D, 0x1B3D), (0x1B43, 0x1B44), (0x1BAA, 0x1BAA),
    (0x1BF2, 0x1BF3), (0x200C, 0x200D), (0x2065, 0x2069), (0x302E, 0x302F), (0x3164, 0x3164),
    (0xA8FA, 0xA8FA), (0xA953, 0xA953), (0xA9C0, 0xA9C0), (0xD7B0, 0xD7C6), (0xD7CB, 0xD7FB),
    (0xFFA0, 0xFFA0), (0xFFF0, 0xFFF8), (0x111C0, 0x111C0), (0x111C2, 0x111C3), (0x11235, 0x11235),
    (0x1133E, 0x1133E), (0x1134D, 0x1134D), (0x11357, 0x11357), (0x113B8, 0x113B8),
    (0x113C2, 0x113C2), (0x113C5, 0x113C5), (0x113C7, 0x113C9), (0x113CF, 0x113CF),
    (0x113D1, 0x113D1), (0x114B0, 0x114B0), (0x114BD, 0x114BD), (0x115AF, 0x115AF),
    (0x116B6, 0x116B6), (0x11930, 0x11930), (0x1193D, 0x1193D), (0x1193F, 0x1193F),
    (0x11941, 0x11941), (0x11A84, 0x11A89), (0x11D46, 0x11D46), (0x11F02, 0x11F02),
    (0x11F41, 0x11F41), (0x16FF0, 0x16FF1), (0x1D165, 0x1D166), (0x1D16D, 0x1D172),
    (0xE0000, 0xE0000), (0xE0002, 0xE001F), (0xE0080, 0xE00FF), (0xE01F0, 0xE0FFF)]

/-- The ranges of characters that ligatures pass over: a few that are ignored and the selectors
of variants. -/
def passedRanges : Ranges :=
  [(0x34F, 0x34F), (0x17B4, 0x17B5), (0x180B, 0x180D), (0x180F, 0x180F), (0xFE00, 0xFE0F),
    (0xE0100, 0xE01EF)]

/-- Whether letters of Arabic join across a character, which has no `charWidth` then. -/
def joinsAcross (c : Char) : Bool := charWidth c = 0 && !separatingRanges.has c.toNat

/-- A ligature of which the end is known. Those that need a joiner tell whether it is there. -/
inductive Ligature where
  /-- A form of alef in Arabic. -/
  | alef
  /-- The letter lamed of Hebrew. -/
  | lamed (joined : Bool)
  /-- The letter ya of Buginese. -/
  | ya (joined : Bool)
  /-- The vowel i of Buginese joined to the letter ya. -/
  | iya
  /-- A consonant of Tifinagh. -/
  | tifinagh (joined : Bool)
  /-- A consonant of Tifinagh with the sign that ties it to the one before. -/
  | tiedTifinagh
  /-- One of the last two tones of Lisu. -/
  | lisuTone
  /-- The letter i of Old Turkic. -/
  | orkhonI (joined : Bool)
  /-- A letter of Khmer that may be written below another. -/
  | subscript
  /-- The vowel sign e of Kirat Rai. -/
  | vowelE
  /-- The vowel sign ai of Kirat Rai. -/
  | vowelAi
deriving DecidableEq

namespace Ligature

/-- The `Ligature` that a character opens. -/
def ofChar? (c : Char) : Option Ligature :=
  if alefRanges.has c.toNat then some .alef
  else if subscriptRanges.has c.toNat then some .subscript
  else if tifinaghRanges.has c.toNat then some (.tifinagh false)
  else if c = '\u05DC' then some (.lamed false)
  else if c = '\u1A10' then some (.ya false)
  else if c = '\uA4FC' || c = '\uA4FD' then some .lisuTone
  else if c.toNat = 0x10C03 then some (.orkhonI false)
  else if c.toNat = 0x16D67 then some .vowelE
  else if c.toNat = 0x16D68 then some .vowelAi
  else none

/-- The `Ligature` with a joiner before what is known of it. -/
def join : Ligature → Ligature
  | .lamed _ => .lamed true
  | .ya _ => .ya true
  | .tifinagh _ => .tifinagh true
  | .orkhonI _ => .orkhonI true
  | ligature => ligature

/-- What a character changes in a `Ligature` that none of its letters is, if it may stand inside. -/
def pass? (ligature : Ligature) (c : Char) : Option Ligature :=
  match ligature with
  | .alef => if joinsAcross c then some .alef else none
  | .vowelE | .vowelAi => none
  | _ =>
    if c = joiner then some ligature.join
    else if passedRanges.has c.toNat then some ligature
    else none

/-- Adds a letter in front of a `Ligature`: the change in columns and, unless the ligature is
complete, what is known of it then. -/
def complete? (ligature : Ligature) (c : Char) : Option (Int × Option Ligature) :=
  match ligature with
  | .alef => if lamRanges.has c.toNat then some (0, none) else none
  | .lamed true => if c = '\u05D0' then some (0, none) else none
  | .ya true => if c = '\u1A17' then some (0, some .iya) else none
  | .iya => if c = '\u1A15' then some (0, none) else none
  | .tifinagh joined =>
    if c = '\u2D7F' then some (1, some .tiedTifinagh)
    else if joined && tifinaghRanges.has c.toNat then some (0, none)
    else none
  | .tiedTifinagh => if tifinaghRanges.has c.toNat then some (-1, none) else none
  | .lisuTone => if 0xA4F8 ≤ c.toNat && c.toNat ≤ 0xA4FB then some (0, none) else none
  | .orkhonI true => if c.toNat = 0x10C32 then some (0, none) else none
  | .subscript => if c = '\u17D2' then some (-1, none) else none
  | .vowelE =>
    if c.toNat = 0x16D63 || c.toNat = 0x16D69 then some (0, none)
    else if c.toNat = 0x16D67 then some (0, some .vowelAi)
    else if c.toNat = 0x16D68 then some (1, some .vowelE)
    else none
  | .vowelAi => if c.toNat = 0x16D63 then some (0, none) else none
  | _ => none

/-- Adds a character in front of a `Ligature`, if it may stand there. -/
def extend? (ligature : Ligature) (c : Char) : Option (Int × Option Ligature) :=
  match ligature.pass? c with
  | some passed => some (0, some passed)
  | none => ligature.complete? c

end Ligature

end Gamebook.Text
