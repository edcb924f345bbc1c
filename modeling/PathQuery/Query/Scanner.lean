import PathQuery.Query.Fault
import PathQuery.Text
import PathQuery.Unicode.Class

/-!
Scanning a query text into tokens. A scanner stands before the characters it has not read; each call
of `next` answers with a token or an error and leaves the scanner where the next call goes on. The
main statement is `next_lt`: a token other than the end takes at least one character.
-/

namespace PathQuery

/-- Characters still to be read, and the byte offset of the first of them. -/
structure Place where
  rest : List Char
  offset : Nat

/-- A place in the text, and whether the last token was a dot: after one, digits and a minus name a
key. -/
structure Scanner extends Place where
  afterDot : Bool

namespace Scanner

def ofString (text : String) : Scanner :=
  ⟨⟨text.toList, 0⟩, false⟩

def isIdentifierChar (c : Char) : Bool :=
  Unicode.isAlphanumeric c || c = '_' || c = '-'

def startsIdentifier (c : Char) : Bool :=
  Unicode.isAlphabetic c || c = '_'

/-- The place behind a beginning of the text of the given length. -/
def skip (taken : List Char) (p : Place) : Place :=
  ⟨p.rest.drop taken.length, p.offset + width taken⟩

def skipBlanks (p : Place) : Place :=
  skip (p.rest.takeWhile Unicode.isWhiteSpace) p

/-- The character that a one-letter escape stands for. -/
def escaped? (c : Char) : Option Char :=
  match c with
  | 'n' => some '\n'
  | 't' => some '\t'
  | 'r' => some '\r'
  | 'b' => some '\x08'
  | 'f' => some '\x0c'
  | '/' => some '/'
  | '"' => some '"'
  | '\'' => some '\''
  | '\\' => some '\\'
  | _ => none

/-- The characters of a string and the place behind it, or what is wrong and the place reached. -/
abbrev StringScan := Except SyntaxError (List Char) × Place

def StringScan.cons (c : Char) : StringScan → StringScan
  | (.ok cs, p) => (.ok (c :: cs), p)
  | failed => failed

/-- What four hexadecimal digits stand for; half of a surrogate pair stands for nothing. -/
def unicodeEscape? (a b c d : Char) : Option Char := do
  let n ← codeUnit? a b c d
  if isSurrogate n then none else some (Char.ofNat n)

/-- A bad Unicode escape at `at`, followed by `cs`: reading stops behind its hexadecimal digits. -/
def badUnicodeEscape (start : Nat) (cs : List Char) : StringScan :=
  let digits := (cs.take 4).takeWhile fun c => (hexValue? c).isSome
  (.error ⟨.invalidUnicodeEscape, start⟩, skip digits ⟨cs, start + 2⟩)

/-- The rest of a string that began at `start`, up to its closing quote. -/
def stringBody (quote : Char) (start : Nat) : List Char → Nat → StringScan
  | [], offset => (.error ⟨.unterminatedString, start⟩, ⟨[], offset⟩)
  | '\\' :: [], offset => (.error ⟨.unterminatedString, start⟩, ⟨[], offset + 1⟩)
  | '\\' :: 'u' :: a :: b :: c :: d :: rest, offset =>
    match unicodeEscape? a b c d with
    | some x => (stringBody quote start rest (offset + 6)).cons x
    | none => badUnicodeEscape offset (a :: b :: c :: d :: rest)
  | '\\' :: 'u' :: rest, offset => badUnicodeEscape offset rest
  | '\\' :: e :: rest, offset =>
    match escaped? e with
    | some x => (stringBody quote start rest (offset + 1 + e.utf8Size)).cons x
    | none => (.error ⟨.invalidEscape e, offset⟩, ⟨e :: rest, offset + 1⟩)
  | c :: rest, offset =>
    if c = quote then (.ok [], ⟨rest, offset + c.utf8Size⟩)
    else (stringBody quote start rest (offset + c.utf8Size)).cons c

/-- A point and digits, when a digit follows the point. -/
def fraction (cs : List Char) : List Char :=
  match cs with
  | '.' :: d :: rest => if d.isDigit then '.' :: (d :: rest).takeWhile Char.isDigit else []
  | _ => []

/-- An exponent mark, a sign or none, and digits, when there is a digit. -/
def exponent (cs : List Char) : List Char :=
  match cs with
  | e :: s :: rest =>
    if e = 'e' || e = 'E' then
      if s = '+' || s = '-' then
        let digits := rest.takeWhile Char.isDigit
        if digits.isEmpty then [] else e :: s :: digits
      else
        let digits := (s :: rest).takeWhile Char.isDigit
        if digits.isEmpty then [] else e :: digits
    else []
  | _ => []

/-- The longest numeral at the start of a text whose first character is a digit or a minus. -/
def numeral (cs : List Char) : List Char :=
  let sign := if cs.head? = some '-' then ['-'] else []
  let cs := cs.drop sign.length
  let whole := cs.takeWhile Char.isDigit
  let cs := cs.drop whole.length
  let part := fraction cs
  sign ++ whole ++ part ++ exponent (cs.drop part.length)

/-- The kinds of token that are one character, whatever follows. -/
def single? (c : Char) : Option Token.Kind :=
  match c with
  | '$' => some .root
  | '@' => some .current
  | '.' => some .dot
  | '[' => some .openBracket
  | ']' => some .closeBracket
  | '\x7b' => some .openBrace
  | '\x7d' => some .closeBrace
  | '(' => some .openParen
  | ')' => some .closeParen
  | '*' => some .star
  | ',' => some .comma
  | ':' => some .colon
  | _ => none

/-- Operators of one or two characters; a lone `=`, `&` or `|` is a fault. -/
def operator? (c : Char) (next : Option Char) :
    Option (Except SyntaxFault (Token.Kind × List Char)) :=
  match c with
  | '=' =>
    some (if next = some '=' then .ok (.comparator .eq, ['=', '=']) else .error .singleEquals)
  | '!' =>
    some (.ok (if next = some '=' then (.comparator .ne, ['!', '=']) else (.bang, ['!'])))
  | '<' =>
    some (.ok (if next = some '=' then (.comparator .le, ['<', '=']) else (.comparator .lt, ['<'])))
  | '>' =>
    some (.ok (if next = some '=' then (.comparator .ge, ['>', '=']) else (.comparator .gt, ['>'])))
  | '&' => some (if next = some '&' then .ok (.and, ['&', '&']) else .error .singleAmpersand)
  | '|' => some (if next = some '|' then .ok (.or, ['|', '|']) else .error .singleBar)
  | _ => none

/-- The words `and` and `or` are operators. -/
def wordKind (word : List Char) : Token.Kind :=
  if word = ['a', 'n', 'd'] then .and
  else if word = ['o', 'r'] then .or
  else .property

abbrev Answer := Except SyntaxError Token × Place

/-- A token whose text is the characters it covers. -/
def take (kind : Token.Kind) (taken : List Char) (p : Place) : Answer :=
  (.ok ⟨kind, String.ofList taken, p.offset⟩, skip taken p)

def scanString (quote : Char) (rest : List Char) (p : Place) : Answer :=
  match stringBody quote p.offset rest (p.offset + quote.utf8Size) with
  | (.ok cs, after) => (.ok ⟨.string, String.ofList cs, p.offset⟩, after)
  | (.error e, after) => (.error e, after)

/-- A numeral may not run into a letter, a digit or an underscore. -/
def scanNumber (p : Place) : Answer :=
  let text := numeral p.rest
  let after := skip text p
  if after.rest.head?.any fun c => Unicode.isAlphanumeric c || c = '_' then
    let tail := after.rest.takeWhile isIdentifierChar
    (.error ⟨.malformedNumber (String.ofList (text ++ tail)), p.offset⟩, skip tail after)
  else take .number text p

/-- One token from a place where no white space stands. -/
def scan (afterDot : Bool) (p : Place) : Answer :=
  match p.rest with
  | [] => (.ok ⟨.finish, "", p.offset⟩, p)
  | c :: rest =>
    match single? c with
    | some kind => take kind [c] p
    | none =>
      match operator? c rest.head? with
      | some (.ok (kind, taken)) => take kind taken p
      | some (.error fault) => (.error ⟨fault, p.offset⟩, p)
      | none =>
        if c = '"' || c = '\'' then scanString c rest p
        else if afterDot && (c.isDigit || c = '-') then
          take .property (p.rest.takeWhile isIdentifierChar) p
        else if c.isDigit || (c = '-' && rest.head?.any Char.isDigit) then scanNumber p
        else if startsIdentifier c then
          let word := p.rest.takeWhile isIdentifierChar
          take (wordKind word) word p
        else (.error ⟨.unexpectedCharacter c, p.offset⟩, p)

/-- One token. Behind the last one every call gives the end of the query. -/
def next (s : Scanner) : Except SyntaxError Token × Scanner :=
  match scan s.afterDot (skipBlanks s.toPlace) with
  | (.ok t, p) => (.ok t, ⟨p, t.kind == .dot⟩)
  | (.error e, p) => (.error e, ⟨p, s.afterDot⟩)

theorem length_skip (taken : List Char) (p : Place) :
    (skip taken p).rest.length = p.rest.length - taken.length := by
  simp [skip]

theorem length_skipBlanks (p : Place) : (skipBlanks p).rest.length ≤ p.rest.length := by
  simp [skipBlanks, length_skip]

theorem rest_cons (c : Char) (s : StringScan) : (s.cons c).2 = s.2 := by
  unfold StringScan.cons
  split <;> rfl

theorem length_stringBody (quote : Char) (start : Nat) (cs : List Char) (offset : Nat) :
    (stringBody quote start cs offset).2.rest.length ≤ cs.length := by
  fun_induction stringBody quote start cs offset <;>
    simp_all [rest_cons, badUnicodeEscape, length_skip] <;> omega

theorem lt_of_take {kind : Token.Kind} {taken : List Char} {p q : Place} {t : Token}
    (h : take kind taken p = (.ok t, q)) (ht : taken ≠ []) (hp : p.rest ≠ []) :
    q.rest.length < p.rest.length := by
  simp only [take, Prod.mk.injEq] at h
  rw [← h.2, length_skip]
  have := List.length_pos_iff.2 ht
  have := List.length_pos_iff.2 hp
  omega

theorem operator_ne_nil {c : Char} {n : Option Char} {kind : Token.Kind} {taken : List Char}
    (h : operator? c n = some (.ok (kind, taken))) : taken ≠ [] := by
  unfold operator? at h
  split at h <;> (try split at h) <;> simp at h <;> simp [← h.2]

theorem numeral_ne_nil {cs : List Char}
    (h : cs.head?.any Char.isDigit = true ∨ cs.head? = some '-') : numeral cs ≠ [] := by
  cases cs with
  | nil => simp at h
  | cons c rest =>
    by_cases hc : c = '-'
    · simp [numeral, hc]
    · have hd : c.isDigit = true := by simpa [hc] using h
      simp [numeral, hc, hd]

theorem isAlphanumeric_of_isDigit {c : Char} (h : c.isDigit = true) :
    Unicode.isAlphanumeric c = true := by
  simp only [Char.isDigit, Bool.and_eq_true, decide_eq_true_eq] at h
  have low : 0x30 ≤ c.toNat := h.1
  have high : c.toNat ≤ 0x39 := h.2
  have : Unicode.numeric.contains c.toNat = true := by
    rw [Unicode.numeric, Unicode.Ranges.contains]
    simp [low, high]
  simp [Unicode.isAlphanumeric, this]

theorem isIdentifierChar_of_isDigit {c : Char} (h : c.isDigit = true) :
    isIdentifierChar c = true := by
  simp [isIdentifierChar, isAlphanumeric_of_isDigit h]

theorem isIdentifierChar_of_starts {c : Char} (h : startsIdentifier c = true) :
    isIdentifierChar c = true := by
  simp only [startsIdentifier, Bool.or_eq_true, decide_eq_true_eq] at h
  rcases h with ha | hu
  · simp [isIdentifierChar, Unicode.isAlphanumeric, ha]
  · simp [isIdentifierChar, hu]

theorem scanString_lt {quote : Char} {rest : List Char} {p q : Place} {t : Token}
    (h : scanString quote rest p = (.ok t, q)) : q.rest.length ≤ rest.length := by
  have hl := length_stringBody quote p.offset rest (p.offset + quote.utf8Size)
  unfold scanString at h
  split at h
  · rename_i he
    rw [he] at hl
    simp only [Prod.mk.injEq] at h
    rwa [← h.2]
  · simp at h

theorem scanNumber_lt {p q : Place} {t : Token} (h : scanNumber p = (.ok t, q))
    (hp : p.rest.head?.any Char.isDigit = true ∨ p.rest.head? = some '-') :
    q.rest.length < p.rest.length := by
  unfold scanNumber at h
  dsimp only at h
  split at h
  · simp at h
  · refine lt_of_take h (numeral_ne_nil hp) ?_
    intro hn
    simp [hn] at hp

/-- A token before the end takes at least one character. -/
theorem scan_lt {afterDot : Bool} {p q : Place} {t : Token}
    (h : scan afterDot p = (.ok t, q)) (ht : t.kind ≠ .finish) : q.rest.length < p.rest.length := by
  obtain ⟨rest, offset⟩ := p
  cases rest with
  | nil =>
    simp [scan] at h
    simp [← h.1] at ht
  | cons c rest =>
    unfold scan at h
    dsimp only at h
    split at h
    · exact lt_of_take h (by simp) (by simp)
    split at h
    · rename_i he
      exact lt_of_take h (operator_ne_nil he) (by simp)
    · simp at h
    split at h
    · exact Nat.lt_succ_of_le (scanString_lt h)
    split at h
    · rename_i hc
      refine lt_of_take h ?_ (by simp)
      simp only [Bool.and_eq_true, Bool.or_eq_true, decide_eq_true_eq] at hc
      have : isIdentifierChar c = true := by
        rcases hc.2 with hd | hd
        · exact isIdentifierChar_of_isDigit hd
        · simp [isIdentifierChar, hd]
      simp [this]
    split at h
    · rename_i hc
      refine scanNumber_lt h ?_
      simp only [Bool.or_eq_true, Bool.and_eq_true, decide_eq_true_eq] at hc
      rcases hc with hd | hd
      · exact .inl (by simpa using hd)
      · exact .inr (by simp [hd.1])
    split at h
    · rename_i hc
      refine lt_of_take h ?_ (by simp)
      simp [isIdentifierChar_of_starts hc]
    · simp at h

theorem next_lt {s s' : Scanner} {t : Token} (h : s.next = (.ok t, s')) (ht : t.kind ≠ .finish) :
    s'.rest.length < s.rest.length := by
  unfold next at h
  split at h
  · rename_i he
    simp only [Prod.mk.injEq, Except.ok.injEq] at h
    have := scan_lt he (h.1 ▸ ht)
    have := length_skipBlanks s.toPlace
    rw [← h.2]
    dsimp only
    omega
  · simp at h

/-- All tokens to the end of the query, or the first error. -/
def tokens (s : Scanner) : Except SyntaxError (List Token) :=
  match _ : s.next with
  | (.error e, _) => .error e
  | (.ok t, s') =>
    if _ : t.kind = .finish then .ok [t]
    else (tokens s').map (t :: ·)
termination_by s.rest.length
decreasing_by apply next_lt <;> assumption

end Scanner

/-- The tokens of a query text, the last of them marking its end. -/
def tokenize (text : String) : Except SyntaxError (List Token) :=
  (Scanner.ofString text).tokens

end PathQuery
