import PathQuery.Proofs.Query.ErrorPositions

/-!
Calling one scanner again and again, also after it has failed. What a call answers stands between
the place where the scanner was and the place where it is then, so that answers never go back. A
failed call leaves the scanner behind the place of its error, except at a character that begins no
token: there it stays, and fails in the same way ever after.
-/

namespace PathQuery

/-- The faults of a character that begins no token. -/
def SyntaxFault.blocks : SyntaxFault → Bool
  | singleEquals | singleAmpersand | singleBar | unexpectedCharacter _ => true
  | _ => false

namespace Scanner

/-- Where an answer stands, be it a token or an error. -/
def standsAt : Except SyntaxError Token → Nat
  | .ok t => t.position
  | .error e => e.position

/-! ### A scan that fails -/

/-- The error blocks nothing, and its place is passed. -/
def Passes (e : SyntaxError) (q : Place) : Prop :=
  e.fault.blocks = false ∧ e.position < q.offset

section

variable {dot : Bool} {p q : Place} {e : SyntaxError}

/-- A string that fails, fails behind its opening quote, and is left behind the error. -/
theorem stringBody_passes {quote : Char} {start offset : Nat} {cs : List Char}
    (h : stringBody quote start cs offset = (.error e, q)) (opened : start < offset) :
    Passes e q := by
  fun_induction stringBody quote start cs offset with
  | case1 offset =>
      cases h
      exact ⟨rfl, opened⟩
  | case2 offset =>
      cases h
      exact ⟨rfl, Nat.lt_succ_of_lt opened⟩
  | case3 a b c d rest offset x hx ih => exact ih (StringScan.eq_error_of_cons h) (by omega)
  | case4 | case5 =>
      cases h
      refine ⟨rfl, ?_⟩
      dsimp only [skip]
      omega
  | case6 c rest offset _ _ x hx ih => exact ih (StringScan.eq_error_of_cons h) (by omega)
  | case7 c rest offset =>
      cases h
      exact ⟨rfl, Nat.lt_succ_self offset⟩
  | case8 => cases h
  | case9 c rest offset _ _ _ _ _ ih => exact ih (StringScan.eq_error_of_cons h) (by omega)

theorem scanString_passes {quote : Char} {rest : List Char}
    (h : scanString quote rest p = (.error e, q)) : Passes e q := by
  unfold scanString at h
  split at h
  · cases h
  · rename_i failed
    cases h
    exact stringBody_passes failed (Nat.lt_add_of_pos_right quote.utf8Size_pos)

/-- A number that runs into a letter is passed together with it. -/
theorem scanNumber_passes (h : scanNumber p = (.error e, q)) (some : numeral p.rest ≠ []) :
    Passes e q := by
  obtain ⟨c, cs, taken⟩ := List.exists_cons_of_ne_nil some
  unfold scanNumber at h
  dsimp only at h
  split at h
  · cases h
    have size := c.utf8Size_pos
    refine ⟨rfl, ?_⟩
    simp only [skip, taken, width]
    omega
  · cases h

theorem operator?_blocks {c : Char} {next : Option Char} {fault : SyntaxFault}
    (h : operator? c next = some (.error fault)) : fault.blocks := by
  unfold operator? at h
  split at h <;> (try split at h) <;> cases h <;> rfl

/-- A scan that fails passes the place of its error, or it does not move at all. -/
theorem scan_fails (h : scan dot p = (.error e, q)) :
    Passes e q ∨ (e.fault.blocks ∧ q = p ∧ e.position = p.offset) := by
  obtain ⟨rest, offset⟩ := p
  unfold scan at h
  split at h
  · cases h
  rename_i c rest hr
  subst hr
  dsimp only at h
  split at h
  · cases h
  split at h
  · cases h
  · rename_i lone
    cases h
    exact .inr ⟨operator?_blocks lone, rfl, rfl⟩
  split at h
  · exact .inl (scanString_passes h)
  split at h
  · cases h
  split at h
  · rename_i hc
    simp only [Bool.or_eq_true, Bool.and_eq_true, decide_eq_true_eq] at hc
    refine .inl (scanNumber_passes h (numeral_ne_nil ?_))
    rcases hc with digit | ⟨minus, -⟩
    · exact .inl (by simpa using digit)
    · exact .inr (by simp [minus])
  split at h
  · cases h
  · cases h
    exact .inr ⟨rfl, rfl, rfl⟩

end

/-! ### One call -/

variable {s m : Scanner} {t : Token} {e : SyntaxError}

theorem skipBlanks_skipBlanks (p : Place) : skipBlanks (skipBlanks p) = skipBlanks p := by
  obtain ⟨gap, blank, split⟩ := exists_gap p.rest
  have start := startsAtOnce_dropWhile p.rest
  have passed := skipBlanks_append blank start p.offset
  rw [← split] at passed
  rw [passed]
  have none : Blank [] := by simp [Blank]
  exact skipBlanks_append none start _

/-- A call that fails leaves the scanner behind the place of the error, or at it, where the next
call does the same. -/
theorem next_fails (h : s.next = (.error e, m)) :
    Passes e m.toPlace ∨ (e.fault.blocks ∧ e.position = m.offset ∧ m.next = (.error e, m)) := by
  unfold next at h
  split at h
  · cases h
  rename_i failed
  cases h
  refine (scan_fails failed).imp_right ?_
  rintro ⟨blocked, rfl, here⟩
  refine ⟨blocked, here, ?_⟩
  unfold next
  rw [skipBlanks_skipBlanks, failed]

/-- The end of the query is found at the end of the text, and found again there. -/
theorem next_finish (h : s.next = (.ok t, m)) (ht : t.kind = .finish) :
    m.rest = [] ∧ t = ⟨.finish, "", m.offset⟩ ∧ m.next = (.ok t, m) := by
  obtain ⟨gap, rest, -, -, -, scanned, dot⟩ := scan_of_next h
  obtain ⟨place, dot'⟩ := m
  rcases takes_scan scanned with ⟨hr, rfl⟩ | taken
  · dsimp only at hr dot scanned
    subst hr dot
    cases scanned
    exact ⟨rfl, rfl, rfl⟩
  · exact absurd ht taken.kind

/-- What a call answers stands between where the scanner was and where it is then. -/
theorem next_stands (s : Scanner) :
    ∃ q, s.toPlace.Reaches q ∧ standsAt s.next.1 = q.offset ∧ q.offset ≤ s.next.2.offset := by
  rcases h : s.next with ⟨a, m⟩
  cases a with
  | error e =>
      obtain ⟨q, reached, here⟩ := next_names h
      refine ⟨q, reached, here, here ▸ ?_⟩
      exact (next_fails h).elim (fun passed => passed.2.le) fun stuck => stuck.2.1.le
  | ok t =>
      obtain ⟨gap, rest, -, -, split, scanned, -⟩ := scan_of_next h
      obtain ⟨taken, position⟩ := answers_scan s.afterDot ⟨rest, s.offset + width gap⟩
      rw [scanned] at taken position
      exact ⟨_, ⟨gap, split, rfl⟩, position t rfl, taken.offset_le⟩

/-! ### One call after another -/

/-- Where a scanner stands after some calls. It goes on where a call failed. -/
def afterCalls : Nat → Scanner → Scanner
  | 0, s => s
  | n + 1, s => (afterCalls n s).next.2

/-- What a scanner answers after some calls. -/
def answer (s : Scanner) (n : Nat) : Except SyntaxError Token :=
  (afterCalls n s).next.1

variable {n : Nat}

theorem next_afterCalls (s : Scanner) (n : Nat) :
    (afterCalls n s).next = (s.answer n, afterCalls (n + 1) s) :=
  rfl

theorem afterCalls_reaches (s : Scanner) (n : Nat) :
    s.toPlace.Reaches (afterCalls n s).toPlace := by
  induction n with
  | zero => exact .refl _
  | succ n ih => exact ih.trans (next_reaches _)

theorem answer_stands (s : Scanner) (n : Nat) :
    ∃ q, s.toPlace.Reaches q ∧ standsAt (s.answer n) = q.offset := by
  obtain ⟨q, reached, here, -⟩ := next_stands (afterCalls n s)
  exact ⟨q, (afterCalls_reaches s n).trans reached, here⟩

theorem answer_bounds (s : Scanner) (n : Nat) :
    (afterCalls n s).offset ≤ standsAt (s.answer n) ∧
      standsAt (s.answer n) ≤ (afterCalls (n + 1) s).offset := by
  obtain ⟨q, reached, here, before⟩ := next_stands (afterCalls n s)
  exact ⟨here ▸ reached.offset_le, here.trans_le before⟩

theorem standsAt_answer_mono (s : Scanner) : Monotone fun n => standsAt (s.answer n) :=
  monotone_nat_of_le_succ fun n => (answer_bounds s n).2.trans (answer_bounds s (n + 1)).1

/-- A scanner that a call leaves where the next call does the same stays there. -/
theorem answer_of_rest {a : Except SyntaxError Token} (now : s.answer n = a)
    (rest : (afterCalls (n + 1) s).next = (a, afterCalls (n + 1) s)) :
    ∀ k, n ≤ k → s.answer k = a := by
  have stays (k : Nat) (hk : n + 1 ≤ k) : afterCalls k s = afterCalls (n + 1) s := by
    induction k, hk using Nat.le_induction with
    | base => rfl
    | succ k _ ih => rw [afterCalls, ih, rest]
  intro k hk
  rcases hk.eq_or_lt with rfl | later
  · exact now
  · rw [answer, stays k later, rest]

/-- Calling one scanner again and again, whatever it has answered before: its answers never go back,
and each stands where a character of the text begins, or at its end; the end of the query, once it is
found, is found at the end of the text ever after; and a call that fails leaves the scanner further
on, behind the place of the error, or every later call fails with the same error, which is so just at
a character that begins no token. -/
theorem calls_go_forward (text : String) (n : Nat) :
    let s := ofString text
    (∀ k, n ≤ k → standsAt (s.answer n) ≤ standsAt (s.answer k)) ∧
      standsAt (s.answer n) ≤ text.utf8ByteSize ∧
      (String.Pos.Raw.mk (standsAt (s.answer n))).IsValid text ∧
      (∀ t, s.answer n = .ok t → t.kind = .finish →
        ∀ k, n ≤ k → s.answer k = .ok ⟨.finish, "", text.utf8ByteSize⟩) ∧
      ∀ e, s.answer n = .error e →
        (e.fault.blocks = false ∧ (afterCalls n s).offset ≤ e.position ∧
          e.position < (afterCalls (n + 1) s).offset ∧
          (afterCalls (n + 1) s).offset ≤ text.utf8ByteSize) ∨
        (e.fault.blocks ∧ ∀ k, n ≤ k → s.answer k = .error e) := by
  intro s
  have valid : (String.Pos.Raw.mk (standsAt (s.answer n))).IsValid text := by
    obtain ⟨q, ⟨taken, split, reached⟩, here⟩ := answer_stands s n
    rw [here, reached, show s.offset = 0 from rfl, Nat.zero_add]
    exact isValid_of_append split
  have length : (afterCalls (n + 1) s).offset + width (afterCalls (n + 1) s).rest =
      text.utf8ByteSize := by
    rw [(afterCalls_reaches s (n + 1)).end_eq, show s.offset = 0 from rfl, Nat.zero_add]
    exact width_toList text
  have called := next_afterCalls s n
  refine ⟨fun k hk => standsAt_answer_mono s hk, valid.le_rawEndPos, valid, ?_, ?_⟩
  · intro t answered ht
    rw [answered] at called
    obtain ⟨rest, rfl, again⟩ := next_finish called ht
    rw [rest] at length
    rw [show (afterCalls (n + 1) s).offset = text.utf8ByteSize from length] at answered again
    exact answer_of_rest answered again
  · intro e answered
    rw [answered] at called
    have before := (answer_bounds s n).1
    rw [answered] at before
    rcases next_fails called with ⟨open_, passed⟩ | ⟨blocked, -, again⟩
    · exact .inl ⟨open_, before, passed, by omega⟩
    · exact .inr ⟨blocked, answer_of_rest answered again⟩

/-- A number that runs into a letter and a bad escape are passed, and what stands behind the escape is
a name; at a lone equals sign the scanner stays. -/
theorem calls_go_forward_behind_errors :
    let text := "1x '\\q ="
    (ofString text).answer 0 = .error ⟨.malformedNumber "1x", 0⟩ ∧
      (ofString text).answer 1 = .error ⟨.invalidEscape 'q', 4⟩ ∧
      4 < (afterCalls 2 (ofString text)).offset ∧
      (ofString text).answer 2 = .ok ⟨.property, "q", 5⟩ ∧
      ∀ k, 3 ≤ k → 5 ≤ standsAt ((ofString text).answer k) ∧
        (ofString text).answer k = .error ⟨.singleEquals, 7⟩ := by
  intro text
  have called : (ofString text).answer 0 = .error ⟨.malformedNumber "1x", 0⟩ ∧
      (ofString text).answer 1 = .error ⟨.invalidEscape 'q', 4⟩ ∧
      (ofString text).answer 2 = .ok ⟨.property, "q", 5⟩ ∧
      (ofString text).answer 3 = .error ⟨.singleEquals, 7⟩ :=
    ⟨by cbv, by cbv, by cbv, by cbv⟩
  obtain ⟨number, escape, name, equals⟩ := called
  obtain ⟨-, -, -, -, failed⟩ := calls_go_forward text 1
  obtain ⟨forward, -⟩ := calls_go_forward text 2
  obtain ⟨-, -, -, -, stuck⟩ := calls_go_forward text 3
  rw [name] at forward
  refine ⟨number, escape, ?_, name, fun k hk => ⟨forward k (by omega), ?_⟩⟩
  · rcases failed _ escape with ⟨-, -, passed, -⟩ | ⟨blocked, -⟩
    · simpa only [Nat.reduceAdd] using passed
    · cases blocked
  · rcases stuck _ equals with ⟨open_, -⟩ | ⟨-, same⟩
    · cases open_
    · exact same k hk

end Scanner

end PathQuery
