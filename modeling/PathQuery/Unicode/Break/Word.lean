import PathQuery.Unicode.Category.Others
import PathQuery.Unicode.Property.Emoji
import PathQuery.Unicode.Property.Ideograph
import PathQuery.Unicode.Property.Letter
import PathQuery.Unicode.Property.Mark
import PathQuery.Unicode.Script

/-!
The classes of Word_Break, which tell where a word ends.
-/

namespace PathQuery.Unicode.Break.Word

open Category Property

def extend : Ranges :=
  Ranges.unionAll [graphemeExtend, spacingMark, emojiModifier]

/-- Format characters that show, or join or part words. -/
def visibleFormat : Ranges :=
  [(0x600, 0x605), (0x6DD, 0x6DD), (0x70F, 0x70F), (0x890, 0x891), (0x8E2, 0x8E2),
   (0x200B, 0x200D), (0x110BD, 0x110BD), (0x110CD, 0x110CD), (0xE0020, 0xE007F)]

def unseen : Ranges :=
  formatCode.difference visibleFormat

/-- Signs of numbers, and a digit that is none by category. -/
def numericSign : Ranges :=
  [(0x600, 0x605), (0x66B, 0x66B), (0x6DD, 0x6DD), (0x890, 0x891), (0x8E2, 0x8E2),
   (0x19DA, 0x19DA), (0x110BD, 0x110BD), (0x110CD, 0x110CD)]

def numeric : Ranges :=
  decimalNumber.union numericSign

def extendNumLet : Ranges :=
  connectorPunctuation.union [(0x202F, 0x202F)]

/-- Marks of repetition, voice and length that are written with Katakana. -/
def kanaMark : Ranges :=
  [(0x3031, 0x3035), (0x309B, 0x309C), (0x30A0, 0x30A0), (0x30FC, 0x30FC), (0xFF70, 0xFF70)]

def katakana : Ranges :=
  Script.katakana.own.union kanaMark

def hebrewLetter : Ranges :=
  Script.hebrew.own.inter otherLetter

/-- Letters of scripts that put no blanks between words. -/
def unspacedLetter : Ranges :=
  [(0xE01, 0xE30), (0xE32, 0xE33), (0xE40, 0xE46), (0xE81, 0xE82), (0xE84, 0xE84), (0xE86, 0xE8A),
   (0xE8C, 0xEA3), (0xEA5, 0xEA5), (0xEA7, 0xEB0), (0xEB2, 0xEB3), (0xEBD, 0xEBD), (0xEC0, 0xEC4),
   (0xEC6, 0xEC6), (0xEDC, 0xEDF), (0x1000, 0x102A), (0x103F, 0x103F), (0x1050, 0x1055),
   (0x105A, 0x105D), (0x1061, 0x1061), (0x1065, 0x1066), (0x106E, 0x1070), (0x1075, 0x1081),
   (0x108E, 0x108E), (0x1780, 0x17B3), (0x17D7, 0x17D7), (0x17DC, 0x17DC), (0x1950, 0x196D),
   (0x1970, 0x1974), (0x1980, 0x19AB), (0x19B0, 0x19C9), (0x1A20, 0x1A54), (0x1AA7, 0x1AA7),
   (0xA9E0, 0xA9E4), (0xA9E6, 0xA9EF), (0xA9FA, 0xA9FE), (0xAA60, 0xAA76), (0xAA7A, 0xAA7A),
   (0xAA7E, 0xAAAF), (0xAAB1, 0xAAB1), (0xAAB5, 0xAAB6), (0xAAB9, 0xAABD), (0xAAC0, 0xAAC0),
   (0xAAC2, 0xAAC2), (0xAADB, 0xAADD), (0x11700, 0x1171A), (0x11740, 0x11746)]

/-- Signs that count as letters. -/
def letterSign : Ranges :=
  [(0x2C2, 0x2C5), (0x2D2, 0x2D7), (0x2DE, 0x2DF), (0x2E5, 0x2EB), (0x2ED, 0x2ED), (0x2EF, 0x2FF),
   (0x55A, 0x55C), (0x55E, 0x55E), (0x58A, 0x58A), (0x5F3, 0x5F3), (0x70F, 0x70F),
   (0xA708, 0xA716), (0xA720, 0xA721), (0xA789, 0xA78A), (0xAB5B, 0xAB5B)]

/-- Letters of the scripts whose words stand apart. -/
def aLetter : Ranges :=
  (Property.alphabetic.difference
    (Ranges.unionAll
      [ideographic, Script.hiragana.own, katakana, hebrewLetter, extend, unspacedLetter])).union
    letterSign

/-- Signs between letters. -/
def midLetter : Ranges :=
  [(0x3A, 0x3A), (0xB7, 0xB7), (0x387, 0x387), (0x55F, 0x55F), (0x5F4, 0x5F4), (0x2027, 0x2027),
   (0xFE13, 0xFE13), (0xFE55, 0xFE55), (0xFF1A, 0xFF1A)]

/-- Signs between digits. -/
def midNum : Ranges :=
  [(0x2C, 0x2C), (0x3B, 0x3B), (0x37E, 0x37E), (0x589, 0x589), (0x60C, 0x60D), (0x66C, 0x66C),
   (0x7F8, 0x7F8), (0x2044, 0x2044), (0xFE50, 0xFE50), (0xFE54, 0xFE54), (0xFF0C, 0xFF0C),
   (0xFF1B, 0xFF1B)]

/-- Signs between letters or between digits. -/
def midNumLet : Ranges :=
  [(0x2E, 0x2E), (0x2018, 0x2019), (0x2024, 0x2024), (0xFE52, 0xFE52), (0xFF07, 0xFF07),
   (0xFF0E, 0xFF0E)]

/-- Ends of lines other than a carriage return and a line feed. -/
def newline : Ranges :=
  [(0xB, 0xC), (0x85, 0x85), (0x2028, 0x2029)]

/-- Blanks that stay together. -/
def wordSpace : Ranges :=
  [(0x20, 0x20), (0x1680, 0x1680), (0x2000, 0x2006), (0x2008, 0x200A), (0x205F, 0x205F),
   (0x3000, 0x3000)]

/-- Characters that count for nothing where the case of a word is told. -/
def caseIgnorable : Ranges :=
  Ranges.unionAll
    [nonspacingMark, enclosingMark, formatCode, modifierLetter, modifierSymbol, midLetter,
      midNumLet, [(0x27, 0x27)]]

/-- The classes under their long and short names. -/
def classes : List (List String × Ranges) :=
  [(["aletter", "le"], aLetter), (["cr"], [(0xD, 0xD)]), (["lf"], [(0xA, 0xA)]),
   (["newline", "nl"], newline), (["doublequote", "dq"], [(0x22, 0x22)]),
   (["singlequote", "sq"], [(0x27, 0x27)]), (["extend"], extend),
   (["extendnumlet", "ex"], extendNumLet), (["format", "fo"], unseen),
   (["hebrewletter", "hl"], hebrewLetter), (["katakana", "ka"], katakana),
   (["midletter", "ml"], midLetter), (["midnum", "mn"], midNum), (["midnumlet", "mb"], midNumLet),
   (["numeric", "nu"], numeric), (["regionalindicator", "ri"], regionalIndicator),
   (["wsegspace"], wordSpace), (["zwj"], [(0x200D, 0x200D)])]

end PathQuery.Unicode.Break.Word
