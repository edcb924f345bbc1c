import PathQuery.Unicode.Category.Marks
import PathQuery.Unicode.Property.Emoji
import PathQuery.Unicode.Property.Mark

/-!
The classes of Grapheme_Cluster_Break, which tell where a text can be cut between the characters
that a reader sees.
-/

namespace PathQuery.Unicode.Break.Grapheme

open Category Property

/-- Controls, line and paragraph separators, and unseen code points. -/
def controlClass : Ranges :=
  [(0x0, 0x9), (0xB, 0xC), (0xE, 0x1F), (0x7F, 0x9F), (0xAD, 0xAD), (0x61C, 0x61C),
   (0x180E, 0x180E), (0x200B, 0x200B), (0x200E, 0x200F), (0x2028, 0x202E), (0x2060, 0x206F),
   (0xFEFF, 0xFEFF), (0xFFF0, 0xFFFB), (0x13430, 0x1343F), (0x1BCA0, 0x1BCA3), (0x1D173, 0x1D17A),
   (0xE0000, 0xE001F), (0xE0080, 0xE00FF), (0xE01F0, 0xE0FFF)]

def extend : Ranges :=
  graphemeExtend.union emojiModifier

/-- Letters that precede the character they belong to. -/
def otherPrepend : Ranges :=
  [(0xD4E, 0xD4E), (0x111C2, 0x111C3), (0x113D1, 0x113D1), (0x1193F, 0x1193F), (0x11941, 0x11941),
   (0x11A3A, 0x11A3A), (0x11A84, 0x11A89), (0x11D46, 0x11D46), (0x11F02, 0x11F02)]

def prepend : Ranges :=
  prependedConcatenationMark.union otherPrepend

/-- Spacing marks that stand on their own. -/
def standingMark : Ranges :=
  [(0x102B, 0x102C), (0x1038, 0x1038), (0x1062, 0x1064), (0x1067, 0x106D), (0x1083, 0x1083),
   (0x1087, 0x108C), (0x108F, 0x108F), (0x109A, 0x109C), (0x1A61, 0x1A61), (0x1A63, 0x1A64),
   (0xAA7B, 0xAA7B), (0xAA7D, 0xAA7D), (0x11720, 0x11721)]

/-- Two vowel signs count with the spacing marks. -/
def spacing : Ranges :=
  ((spacingMark.difference graphemeExtend).difference standingMark).union
    [(0xE33, 0xE33), (0xEB3, 0xEB3)]

/-- Leading consonants. -/
def leading : Ranges :=
  [(0x1100, 0x115F), (0xA960, 0xA97C)]

/-- Vowels. -/
def vowel : Ranges :=
  [(0x1160, 0x11A7), (0xD7B0, 0xD7C6), (0x16D63, 0x16D63), (0x16D67, 0x16D6A)]

/-- Trailing consonants. -/
def trailing : Ranges :=
  [(0x11A8, 0x11FF), (0xD7CB, 0xD7FB)]

/-- Syllables without a trailing consonant, of which 27 with one follow each. -/
def openSyllable : Ranges :=
  (List.range 399).map fun k => (0xAC00 + 28 * k, 0xAC00 + 28 * k)

def closedSyllable : Ranges :=
  Ranges.difference [(0xAC00, 0xD7A3)] openSyllable

/-- The classes under their long and short names. -/
def classes : List (List String × Ranges) :=
  [(["control", "cn"], controlClass), (["cr"], [(0xD, 0xD)]), (["lf"], [(0xA, 0xA)]),
   (["extend", "ex"], extend), (["prepend", "pp"], prepend), (["spacingmark", "sm"], spacing),
   (["l"], leading), (["v"], vowel), (["t"], trailing), (["lv"], openSyllable),
   (["lvt"], closedSyllable), (["regionalindicator", "ri"], regionalIndicator),
   (["zwj"], [(0x200D, 0x200D)])]

end PathQuery.Unicode.Break.Grapheme
