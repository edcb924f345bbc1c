import Mathlib.Logic.Relation
import PathQuery.Proofs.Evaluation.Filtering
import PathQuery.Proofs.Evaluation.Operators

/-!
Negations moved towards the comparisons. Moving one through a connective changes neither the answer
of a condition nor the error it fails with: the members are tested in the same order, and the same
one decides. At a comparison the negation can be taken up by the operator that accepts the other
orderings, provided that both operands resolve to a value. Where one resolves to nothing, the
comparison holds under no operator, so its negation always does.
-/

namespace PathQuery

open Outcome (Agree)

/-- The connective that joins the negated members. -/
def Connective.dual : Connective → Connective
  | and => or
  | or => and

namespace Comparator

/-- The operator that accepts the other orderings. -/
def complement : Comparator → Comparator
  | eq => ne
  | ne => eq
  | lt => ge
  | ge => lt
  | le => gt
  | gt => le

theorem accepts_complement (op : Comparator) (o : Ordering) :
    op.complement.accepts o = !op.accepts o := by
  cases op <;> cases o <;> rfl

/-- The operator and its complement are opposite, or neither can be applied. -/
theorem apply_complement (op : Comparator) (x y : Json) :
    (∃ b, op.apply x y = .ok b ∧ op.complement.apply x y = .ok (!b)) ∨
      (∃ m, op.apply x y = .error m) ∧ ∃ m, op.complement.apply x y = .error m := by
  by_cases h : Json.Comparable x y
  · obtain ⟨o, ho⟩ := h.exists_ordering
    exact .inl ⟨op.accepts o, apply_of_ordering ho op,
      by rw [apply_of_ordering ho, accepts_complement]⟩
  · cases op with
    | eq => exact .inl ⟨Json.looseEq x y, rfl, rfl⟩
    | ne => exact .inl ⟨!Json.looseEq x y, rfl, by rw [Bool.not_not]; rfl⟩
    | lt | le | gt | ge =>
        exact .inr ⟨⟨_, apply_of_not_comparable rfl h⟩, _, apply_of_not_comparable rfl h⟩

end Comparator

section

variable {op : Comparator} {x y : Json}

theorem compareOperands_ok {b : Bool} (h : op.apply x y = .ok b) :
    compareOperands op (some x) (some y) = .ok b := by
  simp only [compareOperands, h]

theorem compareOperands_error {m : Mismatch} (h : op.apply x y = .error m) :
    compareOperands op (some x) (some y) = .mismatch m := by
  simp only [compareOperands, h]

theorem compareOperands_of_none (op : Comparator) {x y : Option Json} (h : x = none ∨ y = none) :
    compareOperands op x y = .ok false := by
  rcases h with rfl | rfl
  · rfl
  · cases x <;> rfl

end

/-- One negation is moved through a connective, or two in a row are dropped, anywhere in the tree of
connectives; operands stay as they are. -/
inductive Node.Pushes : Node → Node → Prop
  | double (c : Node) : Pushes (.not (.not c)) c
  | through (op : Connective) (c d : Node) :
      Pushes (.not (.condition op c d)) (.condition op.dual (.not c) (.not d))
  | inner {c c' : Node} : Pushes c c' → Pushes (.not c) (.not c')
  | left (op : Connective) {c c' : Node} (d : Node) :
      Pushes c c' → Pushes (.condition op c d) (.condition op c' d)
  | right (op : Connective) (c : Node) {d d' : Node} :
      Pushes d d' → Pushes (.condition op c d) (.condition op c d')

namespace Scope

variable (s : Scope) (set : ValueSet)

theorem test_not_not (c : Node) : s.test (.not (.not c)) set = s.test c set := by
  rw [test_not, test_not]
  cases s.test c set with
  | error h => rfl
  | ok b => exact congrArg Except.ok (Bool.not_not b)

/-- The first member decides for the connective just when its negation decides for the other one. -/
theorem test_not_condition (op : Connective) (c d : Node) :
    s.test (.not (.condition op c d)) set =
      s.test (.condition op.dual (.not c) (.not d)) set := by
  cases op with
  | and =>
      rw [Connective.dual, test_not, test_and, test_or, test_not, test_not]
      cases s.test c set with
      | error h => rfl
      | ok b => cases b <;> rfl
  | or =>
      rw [Connective.dual, test_not, test_or, test_and, test_not, test_not]
      cases s.test c set with
      | error h => rfl
      | ok b => cases b <;> rfl

theorem test_pushes {c d : Node} (h : c.Pushes d) : s.test c set = s.test d set := by
  induction h with
  | double c => exact s.test_not_not set c
  | through op c d => exact s.test_not_condition set op c d
  | inner _ ih => rw [test_not, test_not, ih]
  | left op d _ ih => rw [test, test, ih]
  | right op c _ ih => rw [test, test, ih]

variable {left right : Node}

theorem test_comparison (op : Comparator) {x y : Option Json}
    (hx : s.operand left set = .ok x) (hy : s.operand right set = .ok y) :
    s.test (.comparison op left right) set = compareOperands op x y := by
  rw [test, hx, hy]
  rfl

theorem test_complement (op : Comparator) {x y : Json} (hx : s.operand left set = .ok (some x))
    (hy : s.operand right set = .ok (some y)) :
    Agree (s.test (.not (.comparison op left right)) set)
      (s.test (.comparison op.complement left right) set) := by
  rw [test_not, s.test_comparison set op hx hy, s.test_comparison set op.complement hx hy]
  rcases op.apply_complement x y with ⟨b, applied, opposite⟩ | ⟨⟨m, failed⟩, m', failed'⟩
  · rw [compareOperands_ok applied, compareOperands_ok opposite]
    exact .ok (!b)
  · rw [compareOperands_error failed, compareOperands_error failed']
    exact .error _ _

end Scope

/-- However often and wherever negations are pushed inwards in a condition, it gives the same answer
or fails with the same error. Where both operands of a comparison resolve to a value, its negation
and the comparison by the complementary operator give the same answer or both fail; where one
resolves to nothing, the negation holds and the comparison by the complementary operator does
not. -/
theorem Engine.negation_pushed (e : Engine) (base : Json) (set : ValueSet) :
    (∀ c d, Relation.ReflTransGen Node.Pushes c d → e.test d base set = e.test c base set) ∧
      (∀ (op : Comparator) (left right : Node) (x y : Json),
        e.operand left base set = .ok (some x) → e.operand right base set = .ok (some y) →
          Agree (e.test (.not (.comparison op left right)) base set)
            (e.test (.comparison op.complement left right) base set)) ∧
      ∀ (op : Comparator) (left right : Node) (x y : Option Json),
        e.operand left base set = .ok x → e.operand right base set = .ok y → x = none ∨ y = none →
          e.test (.not (.comparison op left right)) base set = .ok true ∧
            e.test (.comparison op.complement left right) base set = .ok false := by
  refine ⟨fun c d pushed => ?_, fun op left right x y => ?_, fun op left right x y hx hy h => ?_⟩
  · induction pushed with
    | refl => rfl
    | tail _ step ih => exact ((e.scope base).test_pushes set step).symm.trans ih
  · exact (e.scope base).test_complement set op
  · have never (op : Comparator) :
        (e.scope base).test (.comparison op left right) set = .ok false :=
      ((e.scope base).test_comparison set op hx hy).trans (compareOperands_of_none op h)
    exact ⟨by rw [Engine.test, Scope.test_not, never]; rfl, never op.complement⟩

/-- Of `!((p && !q) || !!r)` and `(!p || q) && !r` both reach `r`, which compares with an object. A
number is not ordered with a text under `<` or `>=`, and the member `b` is skipped. -/
theorem Engine.negation_pushed_skipped :
    let e := ofPolicy ⟨[], .plain .skip, .standard⟩
    let set : ValueSet := .single (.object [("a", .number (.int 1))])
    let a : Node := .path [⟨.current, 2⟩, ⟨.property "a", 3⟩]
    let b : Node := .path [⟨.current, 12⟩, ⟨.property "b", 13⟩]
    let text : Node := .literal (.string "1")
    let p : Node := .comparison .eq a text
    let q : Node := .comparison .ne b text
    let r : Node := .comparison .lt .current text
    let before : Node := .not (.condition .or (.condition .and p (.not q)) (.not (.not r)))
    let behind : Node := .condition .and (.condition .or (.not p) q) (.not r)
    Relation.ReflTransGen Node.Pushes before behind ∧
      e.test before .null set = .mismatch (.notScalar .current .object) ∧
      e.test behind .null set = .mismatch (.notScalar .current .object) ∧
      e.operand a .null set = .ok (some (.number (.int 1))) ∧
      e.operand text .null set = .ok (some (.string "1")) ∧ e.operand b .null set = .ok none ∧
      Agree (e.test (.not (.comparison .lt a text)) .null set)
        (e.test (.comparison .ge a text) .null set) ∧
      e.test (.not (.comparison .lt b text)) .null set = .ok true ∧
      e.test (.comparison .ge b text) .null set = .ok false := by
  intro e set a b text p q r before behind
  have pushed : Relation.ReflTransGen Node.Pushes before behind :=
    .head (.through .or _ _) <| .head (.left .and _ (.through .and p (.not q))) <|
      .head (.left .and _ (.right .or _ (.double q))) <|
        .head (.right .and _ (.double (.not r))) .refl
  obtain ⟨same, opposite, never⟩ := negation_pushed e .null set
  have failed : e.test before .null set = .mismatch (.notScalar .current .object) := rfl
  have missing := never .lt b text none (some (.string "1")) rfl rfl (.inl rfl)
  exact ⟨pushed, failed, (same before behind pushed).trans failed, rfl, rfl, rfl,
    opposite .lt a text _ _ rfl rfl, missing.1, missing.2⟩

end PathQuery
