import PathQuery.Unicode.Category.Others
import PathQuery.Unicode.Property.Mark

/-!
Blanks, and code points that are not shown or stand for nothing.
-/

namespace PathQuery.Unicode.Property

open Category

/-- Code points with the property Bidi_Control. -/
def bidiControl : Ranges :=
  [(0x61C, 0x61C), (0x200E, 0x200F), (0x202A, 0x202E), (0x2066, 0x2069)]

/-- Code points with the property Pattern_White_Space. -/
def patternWhiteSpace : Ranges :=
  [(0x9, 0xD), (0x20, 0x20), (0x85, 0x85), (0x200E, 0x200F), (0x2028, 0x2029)]

/-- Code points with the property Noncharacter_Code_Point. -/
def noncharacter : Ranges :=
  [(0xFDD0, 0xFDEF), (0xFFFE, 0xFFFF), (0x1FFFE, 0x1FFFF), (0x2FFFE, 0x2FFFF), (0x3FFFE, 0x3FFFF),
   (0x4FFFE, 0x4FFFF), (0x5FFFE, 0x5FFFF), (0x6FFFE, 0x6FFFF), (0x7FFFE, 0x7FFFF),
   (0x8FFFE, 0x8FFFF), (0x9FFFE, 0x9FFFF), (0xAFFFE, 0xAFFFF), (0xBFFFE, 0xBFFFF),
   (0xCFFFE, 0xCFFFF), (0xDFFFE, 0xDFFFF), (0xEFFFE, 0xEFFFF), (0xFFFFE, 0xFFFFF),
   (0x10FFFE, 0x10FFFF)]

/-- Code points with the property Deprecated. -/
def deprecatedCode : Ranges :=
  [(0x149, 0x149), (0x673, 0x673), (0xF77, 0xF77), (0xF79, 0xF79), (0x17A3, 0x17A4),
   (0x206A, 0x206F), (0x2329, 0x232A), (0xE0001, 0xE0001)]

/-- Code points with the property Other_Default_Ignorable_Code_Point. -/
def otherDefaultIgnorable : Ranges :=
  [(0x34F, 0x34F), (0x115F, 0x1160), (0x17B4, 0x17B5), (0x2065, 0x2065), (0x3164, 0x3164),
   (0xFFA0, 0xFFA0), (0xFFF0, 0xFFF8), (0xE0000, 0xE0000), (0xE0002, 0xE001F), (0xE0080, 0xE00FF),
   (0xE01F0, 0xE0FFF)]

/-- Format characters are not shown unless they stand within a text. -/
def defaultIgnorable : Ranges :=
  (Ranges.unionAll [otherDefaultIgnorable, formatCode, variationSelector]).difference
    (prependedConcatenationMark.union [(0xFFF9, 0xFFFB), (0x13430, 0x13440)])

def graphemeBase : Ranges :=
  Ranges.complement <| Ranges.unionAll
    [other, lineSeparator, paragraphSeparator, graphemeExtend]

end PathQuery.Unicode.Property
