import PathQuery.Unicode.Ranges

/-!
The three categories of separators.
-/

namespace PathQuery.Unicode.Category

/-- Code points of category Zs. -/
def spaceSeparator : Ranges :=
  [(0x20, 0x20), (0xA0, 0xA0), (0x1680, 0x1680), (0x2000, 0x200A), (0x202F, 0x202F),
   (0x205F, 0x205F), (0x3000, 0x3000)]

/-- Code points of category Zl. -/
def lineSeparator : Ranges :=
  [(0x2028, 0x2028)]

/-- Code points of category Zp. -/
def paragraphSeparator : Ranges :=
  [(0x2029, 0x2029)]

def separator : Ranges :=
  Ranges.unionAll [spaceSeparator, lineSeparator, paragraphSeparator]

end PathQuery.Unicode.Category
