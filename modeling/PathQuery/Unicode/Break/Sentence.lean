import PathQuery.Unicode.Category.Others
import PathQuery.Unicode.Property.Letter
import PathQuery.Unicode.Property.Mark
import PathQuery.Unicode.Property.Symbol
import PathQuery.Unicode.Space

/-!
The classes of Sentence_Break, which tell where a sentence ends.
-/

namespace PathQuery.Unicode.Break.Sentence

open Category Property

/-- Full stops, which may also end an abbreviation. -/
def stop : Ranges :=
  [(0x2E, 0x2E), (0x2024, 0x2024), (0xFE52, 0xFE52), (0xFF0E, 0xFF0E)]

def sentenceEnd : Ranges :=
  sentenceTerminal.difference stop

def extend : Ranges :=
  Ranges.unionAll [graphemeExtend, spacingMark, [(0x200D, 0x200D)]]

/-- Format characters that show, or join words. -/
def visibleFormat : Ranges :=
  [(0x600, 0x605), (0x6DD, 0x6DD), (0x890, 0x891), (0x8E2, 0x8E2), (0x200C, 0x200D),
   (0x110BD, 0x110BD), (0x110CD, 0x110CD), (0xE0020, 0xE007F)]

def unseen : Ranges :=
  formatCode.difference visibleFormat

/-- Georgian letters have case, but it does not tell where a sentence begins. -/
def lower : Ranges :=
  (Property.lowercase.difference graphemeExtend).difference [(0x10D0, 0x10FA), (0x10FD, 0x10FF)]

def upper : Ranges :=
  (Property.uppercase.union titlecaseLetter).difference [(0x1C90, 0x1CBA), (0x1CBD, 0x1CBF)]

def otherSentenceLetter : Ranges :=
  (Property.alphabetic.difference (Ranges.unionAll [lower, upper, extend])).union [(0x5F3, 0x5F3)]

/-- Signs of numbers, and a digit that is none by category. -/
def numericSign : Ranges :=
  [(0x600, 0x605), (0x66B, 0x66C), (0x6DD, 0x6DD), (0x890, 0x891), (0x8E2, 0x8E2),
   (0x19DA, 0x19DA), (0x110BD, 0x110BD), (0x110CD, 0x110CD)]

def numeric : Ranges :=
  decimalNumber.union numericSign

/-- Quotation marks and brackets that are symbols or other punctuation. -/
def ornamentQuote : Ranges :=
  [(0x275B, 0x2760), (0x2E00, 0x2E01), (0x2E06, 0x2E08), (0x2E0B, 0x2E0B), (0x1F676, 0x1F678)]

def close : Ranges :=
  (Ranges.unionAll
    [openPunctuation, closePunctuation, initialPunctuation, finalPunctuation, quotationMark,
      ornamentQuote]).difference [(0xFF02, 0xFF02), (0xFF07, 0xFF07)]

/-- Commas, colons and dashes, behind which a sentence goes on. -/
def continueSign : Ranges :=
  [(0x2C, 0x2D), (0x3A, 0x3B), (0x37E, 0x37E), (0x55D, 0x55D), (0x60C, 0x60D), (0x7F8, 0x7F8),
   (0x1802, 0x1802), (0x1808, 0x1808), (0x2013, 0x2014), (0x3001, 0x3001), (0xFE10, 0xFE11),
   (0xFE13, 0xFE14), (0xFE31, 0xFE32), (0xFE50, 0xFE51), (0xFE54, 0xFE55), (0xFE58, 0xFE58),
   (0xFE63, 0xFE63), (0xFF0C, 0xFF0D), (0xFF1A, 0xFF1B), (0xFF64, 0xFF64)]

/-- Ends of lines other than a carriage return and a line feed. -/
def separatorClass : Ranges :=
  [(0x85, 0x85), (0x2028, 0x2029)]

def space : Ranges :=
  whiteSpace.difference (separatorClass.union [(0xA, 0xA), (0xD, 0xD)])

/-- The classes under their long and short names. -/
def classes : List (List String × Ranges) :=
  [(["aterm", "at"], stop), (["close", "cl"], close), (["cr"], [(0xD, 0xD)]),
   (["lf"], [(0xA, 0xA)]), (["sep", "se"], separatorClass), (["sp"], space),
   (["extend", "ex"], extend), (["format", "fo"], unseen), (["lower", "lo"], lower),
   (["upper", "up"], upper), (["oletter", "le"], otherSentenceLetter),
   (["numeric", "nu"], numeric), (["scontinue", "sc"], continueSign),
   (["sterm", "st"], sentenceEnd)]

end PathQuery.Unicode.Break.Sentence
