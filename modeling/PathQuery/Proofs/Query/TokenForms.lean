import PathQuery.Proofs.Query.Tiling

/-!
The forms of a token: a sign, an operator, a string, a key behind a dot, a number or a word. Its
first character, and sometimes the one behind it, tell which of them it has.
-/

namespace PathQuery.Scanner

variable {dot : Bool} {c : Char} {rest : List Char} {offset : Nat} {t : Token} {q : Place}

/-! ### Forms -/

/-- How a token is scanned from a text that begins with `c`, and goes on with `rest`. -/
inductive Form (dot : Bool) (c : Char) (rest : List Char) : (Place → Answer) → Prop
  | sign {kind : Token.Kind} : single? c = some kind → Form dot c rest (take kind [c])
  | operator {kind : Token.Kind} {taken : List Char} :
      operator? c rest.head? = some (.ok (kind, taken)) → Form dot c rest (take kind taken)
  | string : c = '"' ∨ c = '\'' → Form dot c rest (scanString c rest)
  | key : dot → c.isDigit ∨ c = '-' →
      Form dot c rest (take .property ((c :: rest).takeWhile isIdentifierChar))
  | number : dot = false → c.isDigit ∨ (c = '-' ∧ rest.head?.any Char.isDigit) →
      Form dot c rest scanNumber
  | word : startsIdentifier c →
      Form dot c rest (take (wordKind ((c :: rest).takeWhile isIdentifierChar))
        ((c :: rest).takeWhile isIdentifierChar))

/-- What is scanned has one of the forms. -/
theorem form_of_scan (h : scan dot ⟨c :: rest, offset⟩ = (.ok t, q)) :
    ∃ read, Form dot c rest read ∧ read ⟨c :: rest, offset⟩ = (.ok t, q) := by
  unfold scan at h
  dsimp only at h
  split at h
  · rename_i hs
    exact ⟨_, .sign hs, h⟩
  split at h
  · rename_i ho
    exact ⟨_, .operator ho, h⟩
  · cases h
  split at h
  · rename_i hc
    exact ⟨_, .string (by simpa using hc), h⟩
  split at h
  · rename_i hc
    simp only [Bool.and_eq_true, Bool.or_eq_true, decide_eq_true_eq] at hc
    exact ⟨_, .key hc.1 hc.2, h⟩
  rename_i noKey
  split at h
  · rename_i hc
    simp only [Bool.and_eq_true, Bool.or_eq_true, decide_eq_true_eq] at hc noKey
    have numeric : c.isDigit ∨ c = '-' := hc.imp_right And.left
    exact ⟨_, .number (by simpa [numeric] using noKey) hc, h⟩
  split at h
  · rename_i hc
    exact ⟨_, .word hc, h⟩
  · cases h

/-- What has one of the forms is scanned so. -/
theorem Form.scan_eq {read : Place → Answer} (h : Form dot c rest read) (offset : Nat) :
    scan dot ⟨c :: rest, offset⟩ = read ⟨c :: rest, offset⟩ := by
  cases h with
  | sign hs => simp only [scan, hs]
  | operator ho => simp only [scan, (operator?_nonblank ho).2.1, ho]
  | string hc => rcases hc with rfl | rfl <;> rfl
  | key hd hc =>
      have first : isIdentifierChar c := by
        rcases hc with digit | rfl
        · exact isIdentifierChar_of_isDigit digit
        · decide
      rw [scan_identifierChar first, if_pos (by simpa [hd] using hc)]
  | number hd hc =>
      have first : isIdentifierChar c := by
        rcases hc with digit | ⟨rfl, -⟩
        · exact isIdentifierChar_of_isDigit digit
        · decide
      rw [scan_identifierChar first, if_neg (by simp [hd]), if_pos (by simpa using hc)]
  | word hc =>
      obtain ⟨digit, minus⟩ := not_isDigit_of_starts hc
      rw [scan_identifierChar (isIdentifierChar_of_starts hc), if_neg (by simp [digit, minus]),
        if_neg (by simp [digit, minus]), if_pos hc]

/-- Only a dollar sign is the root. -/
theorem scan_root {p : Place} (h : scan dot p = (.ok t, q)) (ht : t.kind = .root) :
    p.rest.head? = some '$' := by
  obtain ⟨rest, offset⟩ := p
  cases rest with
  | nil =>
      cases h
      cases ht
  | cons c rest =>
      obtain ⟨read, form, run⟩ := form_of_scan h
      cases form with
      | sign hs =>
          rw [(take_eq_ok run).1.symm.trans ht] at hs
          unfold single? at hs
          split at hs
          case h_1 => rfl
          all_goals cases hs
      | operator ho =>
          rw [(take_eq_ok run).1.symm.trans ht] at ho
          unfold operator? at ho
          split at ho <;> (try split at ho) <;> cases ho
      | string _ => exact absurd ((scanString_kind run).symm.trans ht) (by simp)
      | key _ _ => exact absurd ((take_eq_ok run).1.symm.trans ht) (by simp)
      | number _ _ => exact absurd ((scanNumber_kind run).symm.trans ht) (by simp)
      | word _ =>
          have kind := (take_eq_ok run).1.symm.trans ht
          rcases wordKind_cases ((c :: rest).takeWhile isIdentifierChar) with hk | hk | hk <;>
            rw [hk] at kind <;> cases kind

/-- A name is scanned alike behind a dot. -/
theorem scan_name_behindDot {p : Place} (h : scan false p = (.ok t, q)) (ht : t.kind = .property) :
    scan true p = (.ok t, q) := by
  obtain ⟨rest, offset⟩ := p
  cases rest with
  | nil => exact h
  | cons c rest =>
      obtain ⟨read, form, run⟩ := form_of_scan h
      cases form with
      | sign hs => rwa [(Form.sign hs).scan_eq]
      | operator ho => rwa [(Form.operator ho).scan_eq]
      | string hc => rwa [(Form.string hc).scan_eq]
      | key behind _ => cases behind
      | number _ _ => exact absurd ((scanNumber_kind run).symm.trans ht) (by simp)
      | word hc => rwa [(Form.word hc).scan_eq]

end PathQuery.Scanner
