import PathQuery.Unicode.Folding

/-!
Characters that a change of case affects, told from simple case folding: most characters that
folding changes are capitals, and their images are small letters.
-/

namespace PathQuery.Unicode.Property

/-- Small letters that folding changes, in favour of others with the same capital. -/
def foldedSmall : Ranges :=
  [(0xB5, 0xB5), (0x17F, 0x17F), (0x345, 0x345), (0x3C2, 0x3C2), (0x3D0, 0x3D1), (0x3D5, 0x3D6),
   (0x3F0, 0x3F1), (0x3F5, 0x3F5), (0x1C80, 0x1C88), (0x1E9B, 0x1E9B), (0x1FBE, 0x1FBE),
   (0x1FD3, 0x1FD3), (0x1FE3, 0x1FE3), (0xFB06, 0xFB06)]

/-- Small letters that are the image of no other, but have a capital. -/
def smallOnly : Ranges :=
  [(0xB5, 0xB5), (0x131, 0x131), (0x149, 0x149), (0x17F, 0x17F), (0x1C5, 0x1C5), (0x1C8, 0x1C8),
   (0x1CB, 0x1CB), (0x1F0, 0x1F0), (0x1F2, 0x1F2), (0x345, 0x345), (0x3C2, 0x3C2), (0x3D0, 0x3D1),
   (0x3D5, 0x3D6), (0x3F0, 0x3F1), (0x3F5, 0x3F5), (0x587, 0x587), (0x1C80, 0x1C88),
   (0x1E96, 0x1E9B), (0x1F50, 0x1F50), (0x1F52, 0x1F52), (0x1F54, 0x1F54), (0x1F56, 0x1F56),
   (0x1F88, 0x1F8F), (0x1F98, 0x1F9F), (0x1FA8, 0x1FAF), (0x1FB2, 0x1FB2), (0x1FB4, 0x1FB4),
   (0x1FB6, 0x1FB7), (0x1FBC, 0x1FBC), (0x1FBE, 0x1FBE), (0x1FC2, 0x1FC2), (0x1FC4, 0x1FC4),
   (0x1FC6, 0x1FC7), (0x1FCC, 0x1FCC), (0x1FD2, 0x1FD3), (0x1FD6, 0x1FD7), (0x1FE2, 0x1FE4),
   (0x1FE6, 0x1FE7), (0x1FF2, 0x1FF2), (0x1FF4, 0x1FF4), (0x1FF6, 0x1FF7), (0x1FFC, 0x1FFC),
   (0xFB00, 0xFB04), (0xFB06, 0xFB06), (0xFB13, 0xFB17)]

/-- Characters that only folding to several characters changes, or folding to capitals. -/
def fullyFolded : Ranges :=
  [(0xDF, 0xDF), (0x149, 0x149), (0x587, 0x587), (0x13F8, 0x13FD), (0x1E9A, 0x1E9A),
   (0x1F80, 0x1F87), (0x1F90, 0x1F97), (0x1FA0, 0x1FA7), (0x1FB2, 0x1FB4), (0x1FB7, 0x1FB7),
   (0x1FC2, 0x1FC4), (0x1FC7, 0x1FC7), (0x1FF2, 0x1FF4), (0x1FF7, 0x1FF7), (0xAB70, 0xABBF),
   (0xFB00, 0xFB05), (0xFB13, 0xFB17)]

/-- Characters that folding keeps, although its images are taken from them here. -/
def foldingFixed : Ranges :=
  [(0x13A0, 0x13F5), (0x1FBE, 0x1FBE), (0x1FD3, 0x1FD3), (0x1FE3, 0x1FE3)]

/-- Characters that are their own title case, though not their own upper case. -/
def titled : Ranges :=
  [(0x1C5, 0x1C5), (0x1C8, 0x1C8), (0x1CB, 0x1CB), (0x1F2, 0x1F2), (0x10D0, 0x10FA),
   (0x10FD, 0x10FF), (0x1F88, 0x1F8F), (0x1F98, 0x1F9F), (0x1FA8, 0x1FAF), (0x1FBC, 0x1FBC),
   (0x1FCC, 0x1FCC), (0x1FFC, 0x1FFC)]

/-- Capitals whose title case is another character. -/
def digraphCapital : Ranges :=
  [(0x1C4, 0x1C4), (0x1C7, 0x1C7), (0x1CA, 0x1CA), (0x1F1, 0x1F1)]

def foldSources : Ranges :=
  .ofPoints (foldPairs.map Prod.fst)

def foldImages : Ranges :=
  .ofPoints (foldPairs.map Prod.snd)

def changesWhenLowercased : Ranges :=
  (foldSources.difference foldedSmall).union [(0x130, 0x130)]

def changesWhenUppercased : Ranges :=
  foldImages.union smallOnly

def changesWhenTitlecased : Ranges :=
  (changesWhenUppercased.difference titled).union digraphCapital

def changesWhenCasefolded : Ranges :=
  Ranges.unionAll [foldSources.difference foldingFixed, fullyFolded, [(0x130, 0x130)]]

def changesWhenCasemapped : Ranges :=
  Ranges.unionAll [changesWhenLowercased, changesWhenUppercased, changesWhenTitlecased]

end PathQuery.Unicode.Property
