import PathQuery.Unicode.Category.Letters
import PathQuery.Unicode.Category.Marks
import PathQuery.Unicode.Category.Numbers
import PathQuery.Unicode.Category.Punctuation
import PathQuery.Unicode.Property.Format
import PathQuery.Unicode.Property.Symbol

/-!
Characters of identifiers.
-/

namespace PathQuery.Unicode.Property

open Category

/-- Code points with the property Other_ID_Start. -/
def otherIdStart : Ranges :=
  [(0x1885, 0x1886), (0x2118, 0x2118), (0x212E, 0x212E), (0x309B, 0x309C)]

/-- Code points with the property Other_ID_Continue. -/
def otherIdContinue : Ranges :=
  [(0xB7, 0xB7), (0x387, 0x387), (0x1369, 0x1371), (0x19DA, 0x19DA), (0x200C, 0x200D),
   (0x30FB, 0x30FB), (0xFF65, 0xFF65)]

/-- Code points with the property ID_Compat_Math_Start. -/
def idCompatMathStart : Ranges :=
  [(0x2202, 0x2202), (0x2207, 0x2207), (0x221E, 0x221E), (0x1D6C1, 0x1D6C1), (0x1D6DB, 0x1D6DB),
   (0x1D6FB, 0x1D6FB), (0x1D715, 0x1D715), (0x1D735, 0x1D735), (0x1D74F, 0x1D74F),
   (0x1D76F, 0x1D76F), (0x1D789, 0x1D789), (0x1D7A9, 0x1D7A9), (0x1D7C3, 0x1D7C3)]

/-- Code points with the property ID_Compat_Math_Continue. -/
def idCompatMathContinue : Ranges :=
  [(0xB2, 0xB3), (0xB9, 0xB9), (0x2070, 0x2070), (0x2074, 0x207E), (0x2080, 0x208E),
   (0x2202, 0x2202), (0x2207, 0x2207), (0x221E, 0x221E), (0x1D6C1, 0x1D6C1), (0x1D6DB, 0x1D6DB),
   (0x1D6FB, 0x1D6FB), (0x1D715, 0x1D715), (0x1D735, 0x1D735), (0x1D74F, 0x1D74F),
   (0x1D76F, 0x1D76F), (0x1D789, 0x1D789), (0x1D7A9, 0x1D7A9), (0x1D7C3, 0x1D7C3)]

/-- What is kept for the syntax of patterns is in no identifier. -/
def patternReserved : Ranges :=
  patternSyntax.union patternWhiteSpace

def idStart : Ranges :=
  (Ranges.unionAll [letter, letterNumber, otherIdStart]).difference patternReserved

def idContinue : Ranges :=
  (Ranges.unionAll
    [idStart, nonspacingMark, spacingMark, decimalNumber, connectorPunctuation,
      otherIdContinue]).difference patternReserved

/-- Characters that begin an identifier, but not in every normal form. -/
def unstableStart : Ranges :=
  [(0x37A, 0x37A), (0xE33, 0xE33), (0xEB3, 0xEB3), (0x309B, 0x309C), (0xFC5E, 0xFC63),
   (0xFDFA, 0xFDFB), (0xFE70, 0xFE70), (0xFE72, 0xFE72), (0xFE74, 0xFE74), (0xFE76, 0xFE76),
   (0xFE78, 0xFE78), (0xFE7A, 0xFE7A), (0xFE7C, 0xFE7C), (0xFE7E, 0xFE7E), (0xFF9E, 0xFF9F)]

/-- Characters that continue an identifier, but not in every normal form. -/
def unstableContinue : Ranges :=
  [(0x37A, 0x37A), (0x309B, 0x309C), (0xFC5E, 0xFC63), (0xFDFA, 0xFDFB), (0xFE70, 0xFE70),
   (0xFE72, 0xFE72), (0xFE74, 0xFE74), (0xFE76, 0xFE76), (0xFE78, 0xFE78), (0xFE7A, 0xFE7A),
   (0xFE7C, 0xFE7C), (0xFE7E, 0xFE7E)]

def xidStart : Ranges :=
  idStart.difference unstableStart

def xidContinue : Ranges :=
  idContinue.difference unstableContinue

end PathQuery.Unicode.Property
