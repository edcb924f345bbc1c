import PathQuery.Unicode.Category.Letters
import PathQuery.Unicode.Category.Marks
import PathQuery.Unicode.Category.Numbers
import PathQuery.Unicode.Category.Punctuation
import PathQuery.Unicode.Category.Separators
import PathQuery.Unicode.Category.Symbols

/-!
The categories of code points that are no letters, marks, numbers, punctuation, symbols or
separators.
-/

namespace PathQuery.Unicode.Category

/-- Code points of category Cc. -/
def controlCode : Ranges :=
  [(0x0, 0x1F), (0x7F, 0x9F)]

/-- Code points of category Cf. -/
def formatCode : Ranges :=
  [(0xAD, 0xAD), (0x600, 0x605), (0x61C, 0x61C), (0x6DD, 0x6DD), (0x70F, 0x70F), (0x890, 0x891),
   (0x8E2, 0x8E2), (0x180E, 0x180E), (0x200B, 0x200F), (0x202A, 0x202E), (0x2060, 0x2064),
   (0x2066, 0x206F), (0xFEFF, 0xFEFF), (0xFFF9, 0xFFFB), (0x110BD, 0x110BD), (0x110CD, 0x110CD),
   (0x13430, 0x1343F), (0x1BCA0, 0x1BCA3), (0x1D173, 0x1D17A), (0xE0001, 0xE0001),
   (0xE0020, 0xE007F)]

/-- Code points of category Co. -/
def privateUse : Ranges :=
  [(0xE000, 0xF8FF), (0xF0000, 0xFFFFD), (0x100000, 0x10FFFD)]

/-- Every category but those of this module. -/
def graphic : Ranges :=
  Ranges.unionAll [letter, mark, number, punctuation, symbol, separator]

def assigned : Ranges :=
  Ranges.unionAll [graphic, controlCode, formatCode, privateUse]

def unassigned : Ranges :=
  assigned.complement

def other : Ranges :=
  graphic.complement

end PathQuery.Unicode.Category
