import PathQuery.Proofs.Access.Element
import PathQuery.Proofs.Query.Running
import PathQuery.Proofs.Query.Tiling

/-!
Parsing by a place in the list of all tokens. What a parser does to its tokens is written down as a
`Reading`: it looks ahead, takes the token at hand, asks how many are left, answers and fails, and
nothing else. A reading runs on a stream, as the parser does, and on a cursor, where a token is
looked up by its number. The cursor refuses, by giving nothing, to look up a token that is not
there. On the tokens of a text it never refuses, as the end of the query is always the last of them.
-/

namespace PathQuery

/-! ### Readings -/

inductive Reading (α : Type) where
  | answer (a : α)
  | fail (e : SyntaxError)
  | look (n : Nat) (next : Token → Reading α)
  | take (next : Token → Reading α)
  | left (next : Nat → Reading α)

namespace Reading

variable {α β : Type}

def bind : Reading α → (α → Reading β) → Reading β
  | answer a, f => f a
  | fail e, _ => fail e
  | look n next, f => look n fun t => (next t).bind f
  | take next, f => take fun t => (next t).bind f
  | left next, f => left fun n => (next n).bind f

def onStream : Reading α → Parser α
  | answer a, s => .ok a s
  | fail e, s => .error e s
  | look n next, s => (next (s.ahead n)).onStream s
  | take next, s => (next s.head).onStream s.tail
  | left next, s => (next s.rest.length).onStream s

theorem onStream_bind (r : Reading α) (f : α → Reading β) (s : TokenStream) :
    (r.bind f).onStream s = (r.onStream >>= fun a => (f a).onStream) s := by
  rw [Parser.bind_run]
  induction r generalizing s with
  | answer a => rfl
  | fail e => rfl
  | look n next ih => exact ih _ s
  | take next ih => exact ih _ s.tail
  | left next ih => exact ih _ s

end Reading

/-! ### Cursors -/

namespace Guarded

structure Cursor where
  tokens : List Token
  index : Nat

namespace Cursor

/-- A list that does not close with an end token is closed where its last token ends. -/
def ofTokens (ts : List Token) : Cursor :=
  match ts.getLast? with
  | none => ⟨[⟨.finish, "", 0⟩], 0⟩
  | some t =>
    if t.kind = .finish then ⟨ts, 0⟩
    else ⟨ts ++ [⟨.finish, "", t.position + t.text.utf8ByteSize⟩], 0⟩

def last? (c : Cursor) : Option Nat :=
  sub? c.tokens.length 1

def peek? (c : Cursor) (n : Nat) : Option Token := do
  c.tokens[min (c.index + n) (← c.last?)]?

def advance? (c : Cursor) : Option (Token × Cursor) := do
  let token ← c.peek? 0
  if c.index < (← c.last?) then return (token, { c with index := c.index + 1 })
  else return (token, c)

def left? (c : Cursor) : Option Nat := do
  sub? (← c.last?) c.index

/-- The cursor is at the place of the stream. -/
def Shows (c : Cursor) (s : TokenStream) : Prop :=
  ∃ passed, c.tokens = passed ++ s.rest ++ [s.endToken] ∧ c.index = passed.length

variable {c : Cursor} {s : TokenStream}

theorem Shows.last? (h : c.Shows s) : c.last? = some (c.index + s.rest.length) := by
  obtain ⟨passed, tokens, index⟩ := h
  have length : c.tokens.length = c.index + s.rest.length + 1 := by
    rw [tokens, List.length_append, List.length_append, index, List.length_singleton]
  rw [Cursor.last?, length, sub?_eq (by omega), Nat.add_sub_cancel]

theorem Shows.peek? (h : c.Shows s) (n : Nat) : c.peek? n = some (s.ahead n) := by
  have last := h.last?
  obtain ⟨passed, tokens, index⟩ := h
  rw [Cursor.peek?, last, Option.bind_eq_bind, Option.bind_some, tokens, index, List.append_assoc,
    TokenStream.ahead]
  by_cases inside : n < s.rest.length
  · rw [Nat.min_eq_left (by omega), List.getElem?_append_right (Nat.le_add_right _ _),
      Nat.add_sub_cancel_left, List.getElem?_append_left inside, List.getElem?_eq_getElem inside]
    rfl
  · rw [Nat.min_eq_right (by omega), List.getElem?_append_right (Nat.le_add_right _ _),
      Nat.add_sub_cancel_left, List.getElem?_append_right (Nat.le_refl _), Nat.sub_self,
      List.getElem?_eq_none (Nat.le_of_not_lt inside)]
    rfl

theorem Shows.advance? (h : c.Shows s) :
    ∃ c', c.advance? = some (s.head, c') ∧ c'.Shows s.tail := by
  have last := h.last?
  have head := h.peek? 0
  obtain ⟨passed, tokens, index⟩ := h
  rw [Cursor.advance?, head, last, Option.bind_eq_bind, Option.bind_some, Option.bind_eq_bind,
    Option.bind_some]
  obtain ⟨rest, finish⟩ := s
  cases rest with
  | nil => exact ⟨c, if_neg (Nat.lt_irrefl _), passed, tokens, index⟩
  | cons t ts =>
      refine ⟨_, if_pos (Nat.lt_add_of_pos_right (Nat.succ_pos _)), passed ++ [t], ?_, ?_⟩
      · rw [tokens, List.append_assoc passed [t]]
        rfl
      · rw [index, List.length_append, List.length_singleton]

theorem Shows.left? (h : c.Shows s) : c.left? = some s.rest.length := by
  rw [Cursor.left?, h.last?, Option.bind_eq_bind, Option.bind_some, sub?_eq (Nat.le_add_right _ _),
    Nat.add_sub_cancel_left]

/-- At the start the cursor is where the stream is; an end token has no text. -/
theorem ofTokens_shows {ts : List Token}
    (h : ∀ t, ts.getLast? = some t → t.kind = .finish → t.text = "") :
    (ofTokens ts).Shows (.ofTokens ts) := by
  unfold ofTokens TokenStream.ofTokens
  cases last : ts.getLast? with
  | none => exact ⟨[], rfl, rfl⟩
  | some t =>
      dsimp only
      split
      · rename_i finish
        have closing : (⟨.finish, "", t.position⟩ : Token) = t := by
          rw [← finish, ← h t last finish]
        refine ⟨[], ?_, rfl⟩
        rw [List.nil_append, TokenStream.endToken, closing]
        exact (List.dropLast_append_getLast? t last).symm
      · exact ⟨[], rfl, rfl⟩

end Cursor

end Guarded

/-! ### Readings on cursors -/

/-- What a run of the parser comes to, the tokens left aside. -/
def Parser.outcome {α : Type} : EStateM.Result SyntaxError TokenStream α → Except SyntaxError α
  | .ok a _ => .ok a
  | .error e _ => .error e

namespace Reading

variable {α : Type}

open Guarded

/-- What a reading answers, or how it fails, on a cursor. -/
def onCursor? : Reading α → Cursor → Option (Except SyntaxError α)
  | answer a, _ => some (.ok a)
  | fail e, _ => some (.error e)
  | look n next, c => do (next (← c.peek? n)).onCursor? c
  | take next, c => do
    let (token, c') ← c.advance?
    (next token).onCursor? c'
  | left next, c => do (next (← c.left?)).onCursor? c

/-- A cursor that shows a stream shows what is left of it after each step of the reading. -/
theorem onCursor?_eq (r : Reading α) {c : Cursor} {s : TokenStream} (h : c.Shows s) :
    r.onCursor? c = some (Parser.outcome (r.onStream s)) := by
  induction r generalizing c s with
  | answer a => rfl
  | fail e => rfl
  | look n next ih =>
      rw [onCursor?, h.peek? n]
      exact ih _ h
  | take next ih =>
      obtain ⟨c', taken, h'⟩ := h.advance?
      rw [onCursor?, taken]
      exact ih _ h'
  | left next ih =>
      rw [onCursor?, h.left?]
      exact ih _ h

end Reading

end PathQuery
