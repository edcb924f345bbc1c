import PathQuery.Query.Parser

/-!
Running a parser. Each small parser is given by what it answers on a stream, once as an equation to
run it forwards and once, for a success, to read off what the stream was.
-/

namespace PathQuery

namespace TokenStream

/-- The stream with these tokens before all others. -/
def prepend (s : TokenStream) (ts : List Token) : TokenStream :=
  { s with rest := ts ++ s.rest }

@[simp] theorem prepend_nil (s : TokenStream) : s.prepend [] = s := rfl

@[simp] theorem prepend_append (s : TokenStream) (ts us : List Token) :
    s.prepend (ts ++ us) = (s.prepend us).prepend ts := by
  simp [prepend]

@[simp] theorem head_prepend_cons (s : TokenStream) (t : Token) (ts : List Token) :
    (s.prepend (t :: ts)).head = t := rfl

@[simp] theorem ahead_prepend_cons (s : TokenStream) (t : Token) (ts : List Token) (n : Nat) :
    (s.prepend (t :: ts)).ahead (n + 1) = (s.prepend ts).ahead n := by
  simp [ahead, prepend, endToken]

@[simp] theorem ahead_zero (s : TokenStream) : s.ahead 0 = s.head := rfl

@[simp] theorem tail_prepend_cons (s : TokenStream) (t : Token) (ts : List Token) :
    (s.prepend (t :: ts)).tail = s.prepend ts := rfl

theorem length_rest_prepend (s : TokenStream) (ts : List Token) :
    (s.prepend ts).rest.length = ts.length + s.rest.length := by
  simp [prepend]

def omissionAhead (s : TokenStream) : Bool :=
  s.head.kind == .bang && (s.ahead 1).kind == .openBrace

def negationAhead (s : TokenStream) : Bool :=
  s.head.kind == .bang && !s.omissionAhead

theorem head_of_omissionAhead {s : TokenStream} (ho : s.omissionAhead) : s.head.kind = .bang := by
  simp only [omissionAhead, Bool.and_eq_true, beq_iff_eq] at ho
  exact ho.1

theorem head_of_negationAhead {s : TokenStream} (hn : s.negationAhead) : s.head.kind = .bang := by
  simp only [negationAhead, Bool.and_eq_true, beq_iff_eq] at hn
  exact hn.1

/-- A token other than the end is there to be read. -/
theorem eq_prepend_head {s : TokenStream} (h : s.head.kind ≠ .finish) :
    s = s.tail.prepend [s.head] := by
  obtain ⟨rest, finish⟩ := s
  cases rest with
  | nil => exact absurd rfl h
  | cons t ts => rfl

end TokenStream

namespace Parser

variable {α β : Type} {s s' : TokenStream}

/-! ### Forwards -/

@[simp] theorem pure_run (a : α) (s : TokenStream) : (pure a : Parser α) s = .ok a s := rfl

@[simp] theorem bind_run (p : Parser α) (f : α → Parser β) (s : TokenStream) :
    (p >>= f) s =
      match p s with
      | .ok a s' => f a s'
      | .error e s' => .error e s' := by
  change EStateM.bind p f s = _
  unfold EStateM.bind
  cases p s <;> rfl

@[simp] theorem discard_run (p : Parser α) (s : TokenStream) :
    (discard p : Parser Unit) s =
      match p s with
      | .ok _ s' => .ok () s'
      | .error e s' => .error e s' := by
  change EStateM.map (fun _ => ()) p s = _
  unfold EStateM.map
  cases p s <;> rfl

@[simp] theorem map_run (f : α → β) (p : Parser α) (s : TokenStream) :
    (f <$> p) s =
      match p s with
      | .ok a s' => .ok (f a) s'
      | .error e s' => .error e s' := by
  change EStateM.map f p s = _
  unfold EStateM.map
  cases p s <;> rfl

@[simp] theorem ite_run (c : Prop) [Decidable c] (p q : Parser α) (s : TokenStream) :
    (if c then p else q) s = if c then p s else q s := by
  split <;> rfl

@[simp] theorem get_run (s : TokenStream) : (get : Parser TokenStream) s = .ok s s := rfl

@[simp] theorem peek_run (s : TokenStream) : peek s = .ok s.head s := rfl

@[simp] theorem advance_run (s : TokenStream) : advance s = .ok s.head s.tail := rfl

@[simp] theorem check_run (kind : Token.Kind) (s : TokenStream) :
    check kind s = .ok (s.head.kind == kind) s := rfl

@[simp] theorem failAt_run (position : Nat) (fault : SyntaxFault) (s : TokenStream) :
    (failAt position fault : Parser α) s = .error ⟨fault, position⟩ s := rfl

@[simp] theorem unexpected_run (what : String) (s : TokenStream) :
    (unexpected what : Parser α) s = .error ⟨.expected what s.head, s.head.position⟩ s := rfl

@[simp] theorem expect_run (kind : Token.Kind) (s : TokenStream) :
    expect kind s =
      if s.head.kind = kind then .ok s.head s.tail
      else .error ⟨.expected kind.description s.head, s.head.position⟩ s := by
  unfold expect
  simp only [bind_run, check_run, ite_run, beq_iff_eq]
  rfl

@[simp] theorem tooDeep_run (s : TokenStream) :
    (tooDeep : Parser α) s = .error ⟨.nestingTooDeep, s.head.position⟩ s := rfl

@[simp] theorem atOmission_run (s : TokenStream) : atOmission s = .ok s.omissionAhead s := rfl

@[simp] theorem atNegation_run (s : TokenStream) : atNegation s = .ok s.negationAhead s := rfl

@[simp] theorem atStep_run (s : TokenStream) :
    atStep s = .ok (startsStep s.head.kind || s.omissionAhead) s := rfl

/-! ### Backwards, from a success -/

theorem bind_eq_ok {p : Parser α} {f : α → Parser β} {b : β} (h : (p >>= f) s = .ok b s') :
    ∃ a m, p s = .ok a m ∧ f a m = .ok b s' := by
  rw [bind_run] at h
  split at h
  · rename_i a m hp
    exact ⟨a, m, hp, h⟩
  · cases h

theorem map_eq_ok {p : Parser α} {f : α → β} {b : β} (h : (f <$> p) s = .ok b s') :
    ∃ a, p s = .ok a s' ∧ f a = b := by
  rw [map_run] at h
  split at h
  · rename_i a m hp
    cases h
    exact ⟨a, hp, rfl⟩
  · cases h

/-! What only looks at the tokens passes its answer on, at the same place. -/

theorem peek_bind (f : Token → Parser β) (s : TokenStream) : (peek >>= f) s = f s.head s := rfl

theorem get_bind (f : TokenStream → Parser β) (s : TokenStream) :
    ((get : Parser TokenStream) >>= f) s = f s s := rfl

theorem check_bind (kind : Token.Kind) (f : Bool → Parser β) (s : TokenStream) :
    (check kind >>= f) s = f (s.head.kind == kind) s := rfl

theorem atOmission_bind (f : Bool → Parser β) (s : TokenStream) :
    (atOmission >>= f) s = f s.omissionAhead s := rfl

theorem atNegation_bind (f : Bool → Parser β) (s : TokenStream) :
    (atNegation >>= f) s = f s.negationAhead s := rfl

theorem atStep_bind (f : Bool → Parser β) (s : TokenStream) :
    (atStep >>= f) s = f (startsStep s.head.kind || s.omissionAhead) s := rfl

theorem advance_bind (f : Token → Parser β) (s : TokenStream) (t : Token) :
    (advance >>= f) (s.prepend [t]) = f t s := rfl

theorem discard_advance_bind (f : Unit → Parser β) (s : TokenStream) (t : Token) :
    (discard advance >>= f) (s.prepend [t]) = f () s := rfl

theorem expect_eq_ok {kind : Token.Kind} {t : Token} (hk : kind ≠ .finish)
    (h : expect kind s = .ok t s') : t.kind = kind ∧ s = s'.prepend [t] := by
  rw [expect_run] at h
  split at h
  · rename_i he
    cases h
    exact ⟨he, TokenStream.eq_prepend_head (he ▸ hk)⟩
  · cases h

theorem discard_expect_eq_ok {kind : Token.Kind} {u : Unit} (hk : kind ≠ .finish)
    (h : (discard (expect kind) : Parser Unit) s = .ok u s') :
    ∃ t : Token, t.kind = kind ∧ s = s'.prepend [t] := by
  rw [discard_run] at h
  split at h
  · rename_i t m he
    cases h
    exact ⟨t, expect_eq_ok hk he⟩
  · cases h

/-! ### Queries without their root -/

/-- What a query reads behind its root, which stands at `rootPosition`. -/
def queryBehind (rootPosition : Nat) : Parser Query := do
  let first ← headStep
  let path := first ++ (← steps (fuelFor (← get)))
  let conditionPosition := (← peek).position
  let condition ← trailingCondition path.isEmpty
  let last := condition.toList.map (⟨·, conditionPosition⟩)
  if condition.isSome && (← atStep) then
    failAt (← peek).position .stepAfterCondition
  if ← check .finish then discard advance
  else unexpected "path step, comparison or end of query"
  return ⟨⟨.root, rootPosition⟩ :: (path ++ last)⟩

theorem query_run (s : TokenStream) :
    query s = queryBehind s.head.position (if s.head.kind = .root then s.tail else s) := by
  unfold query
  rw [peek_bind, check_bind]
  by_cases hr : s.head.kind = .root
  · rw [if_pos hr, if_pos (by simpa using hr)]
    rfl
  · rw [if_neg hr, if_neg (by simpa using hr)]
    rfl

end Parser

end PathQuery
