import PathQuery.Unicode.Age
import PathQuery.Unicode.Break.Grapheme
import PathQuery.Unicode.Break.Sentence
import PathQuery.Unicode.Break.Word
import PathQuery.Unicode.Property.CaseChange
import PathQuery.Unicode.Property.Identifier

/-!
Properties by name. A name is written in small letters and digits alone.
-/

namespace PathQuery.Unicode

open Category Property

/-- Sets of characters under their names. -/
abbrev NamedSets := List (List String × Ranges)

def NamedSets.find? (sets : NamedSets) (name : String) : Option Ranges :=
  (List.find? (fun s : List String × Ranges => s.1.contains name) sets).map Prod.snd

def generalCategories : NamedSets :=
  [(["any"], everything), (["assigned"], assigned), (["ascii"], ascii),
   (["l", "letter"], letter), (["lc", "casedletter"], casedLetter),
   (["lu", "uppercaseletter"], uppercaseLetter), (["ll", "lowercaseletter"], lowercaseLetter),
   (["lt", "titlecaseletter"], titlecaseLetter), (["lm", "modifierletter"], modifierLetter),
   (["lo", "otherletter"], otherLetter), (["m", "mark", "combiningmark"], mark),
   (["mn", "nonspacingmark"], nonspacingMark), (["mc", "spacingmark"], spacingMark),
   (["me", "enclosingmark"], enclosingMark), (["n", "number"], number),
   (["nd", "decimalnumber", "digit"], decimalNumber), (["nl", "letternumber"], letterNumber),
   (["no", "othernumber"], otherNumber), (["p", "punctuation", "punct"], punctuation),
   (["pc", "connectorpunctuation"], connectorPunctuation),
   (["pd", "dashpunctuation"], dashPunctuation), (["ps", "openpunctuation"], openPunctuation),
   (["pe", "closepunctuation"], closePunctuation),
   (["pi", "initialpunctuation"], initialPunctuation),
   (["pf", "finalpunctuation"], finalPunctuation), (["po", "otherpunctuation"], otherPunctuation),
   (["s", "symbol"], symbol), (["sm", "mathsymbol"], mathSymbol),
   (["sc", "currencysymbol"], currencySymbol), (["sk", "modifiersymbol"], modifierSymbol),
   (["so", "othersymbol"], otherSymbol), (["z", "separator"], separator),
   (["zs", "spaceseparator"], spaceSeparator), (["zl", "lineseparator"], lineSeparator),
   (["zp", "paragraphseparator"], paragraphSeparator), (["c", "other"], other),
   (["cc", "control", "cntrl"], controlCode), (["cf", "format"], formatCode),
   (["cn", "unassigned"], unassigned), (["co", "privateuse"], privateUse)]

def binaryProperties : NamedSets :=
  [(["asciihexdigit", "ahex"], asciiHexDigit), (["alphabetic", "alpha"], Property.alphabetic),
   (["bidicontrol", "bidic"], bidiControl), (["bidimirrored", "bidim"], bidiMirrored),
   (["caseignorable", "ci"], Break.Word.caseIgnorable), (["cased"], Property.cased),
   (["changeswhencasefolded", "cwcf"], changesWhenCasefolded),
   (["changeswhencasemapped", "cwcm"], changesWhenCasemapped),
   (["changeswhenlowercased", "cwl"], changesWhenLowercased),
   (["changeswhentitlecased", "cwt"], changesWhenTitlecased),
   (["changeswhenuppercased", "cwu"], changesWhenUppercased), (["dash"], dash),
   (["defaultignorablecodepoint", "di"], defaultIgnorable), (["deprecated", "dep"], deprecatedCode),
   (["diacritic", "dia"], diacritic), (["emoji"], emoji),
   (["emojicomponent", "ecomp"], emojiComponent), (["emojimodifier", "emod"], emojiModifier),
   (["emojimodifierbase", "ebase"], emojiModifierBase),
   (["emojipresentation", "epres"], emojiPresentation),
   (["extendedpictographic", "extpict"], extendedPictographic), (["extender", "ext"], extender),
   (["graphemebase", "grbase"], graphemeBase), (["graphemeextend", "grext"], graphemeExtend),
   (["graphemelink", "grlink"], graphemeLink), (["hexdigit", "hex"], hexDigit),
   (["hyphen"], hyphen), (["idsbinaryoperator", "idsb"], idsBinaryOperator),
   (["idstrinaryoperator", "idst"], idsTrinaryOperator),
   (["idsunaryoperator", "idsu"], idsUnaryOperator),
   (["idcompatmathcontinue"], idCompatMathContinue), (["idcompatmathstart"], idCompatMathStart),
   (["idcontinue", "idc"], idContinue), (["idstart", "ids"], idStart),
   (["ideographic", "ideo"], ideographic), (["joincontrol", "joinc"], joinControl),
   (["logicalorderexception", "loe"], logicalOrderException),
   (["lowercase", "lower"], Property.lowercase),
   (["math"], math), (["modifiercombiningmark", "mcm"], modifierCombiningMark),
   (["noncharactercodepoint", "nchar"], noncharacter),
   (["otheralphabetic", "oalpha"], otherAlphabetic),
   (["otherdefaultignorablecodepoint", "odi"], otherDefaultIgnorable),
   (["othergraphemeextend", "ogrext"], otherGraphemeExtend),
   (["otheridcontinue", "oidc"], otherIdContinue), (["otheridstart", "oids"], otherIdStart),
   (["otherlowercase", "olower"], otherLowercase), (["othermath", "omath"], otherMath),
   (["otheruppercase", "oupper"], otherUppercase), (["patternsyntax", "patsyn"], patternSyntax),
   (["patternwhitespace", "patws"], patternWhiteSpace),
   (["prependedconcatenationmark", "pcm"], prependedConcatenationMark),
   (["quotationmark", "qmark"], quotationMark), (["radical"], radical),
   (["regionalindicator", "ri"], regionalIndicator),
   (["sentenceterminal", "sterm"], sentenceTerminal),
   (["softdotted", "sd"], softDotted), (["terminalpunctuation", "term"], terminalPunctuation),
   (["unifiedideograph", "uideo"], unifiedIdeograph), (["uppercase", "upper"], Property.uppercase),
   (["variationselector", "vs"], variationSelector),
   (["whitespace", "wspace", "space"], whiteSpace),
   (["xidcontinue", "xidc"], xidContinue), (["xidstart", "xids"], xidStart)]

/-- The characters of a script's own. -/
def script? (name : String) : Option Ranges :=
  (scripts.find? (·.names.contains name)).map Script.own

/-- The characters that are used with a script. Of those that belong to no script, the shared ones
count with the scripts that share them. -/
def scriptExtensions? (name : String) : Option Ranges :=
  (scripts.find? (·.names.contains name)).map fun s =>
    if s.names.contains "common" || s.names.contains "inherited" then
      s.own.difference (Ranges.unionAll (scripts.map Script.shared))
    else s.own.union s.shared

/-- Whether a version goes by a name: its number, or its number without the point behind a letter.
-/
def Version.isNamed (v : Version) (name : String) : Bool :=
  v.number == name || 'v' :: v.number.toList.filter (· != '.') == name.toList

/-- The code points that a version of the standard has. -/
def age? (name : String) : Option Ranges :=
  match versions.span (!·.isNamed name) with
  | (older, v :: _) => some (Ranges.unionAll ((older ++ [v]).map Version.added))
  | (_, []) => none

/-- A property that characters have or have not. -/
def property? (name : String) : Option Ranges :=
  ((binaryProperties.find? name).or (generalCategories.find? name)).or (script? name)

/-- A property that has a value for each character. -/
def propertyValue? (name value : String) : Option Ranges :=
  match name with
  | "gc" | "generalcategory" => generalCategories.find? value
  | "sc" | "script" => script? value
  | "scx" | "scriptextensions" => scriptExtensions? value
  | "age" => age? value
  | "gcb" | "graphemeclusterbreak" => NamedSets.find? Break.Grapheme.classes value
  | "wb" | "wordbreak" => NamedSets.find? Break.Word.classes value
  | "sb" | "sentencebreak" => NamedSets.find? Break.Sentence.classes value
  | _ => none

end PathQuery.Unicode
