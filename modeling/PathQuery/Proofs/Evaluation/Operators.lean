import PathQuery.Evaluation.Comparison
import PathQuery.Proofs.Json.Ordering

/-!
The comparison operators among each other. Equality and its opposite decide for all values. The four
others decide for two numbers or two strings and then follow from one ordering, as the equality
does: one of less, equal and greater holds, and the operators that admit equality are those without
it or the equality.
-/

namespace PathQuery.Comparator

/-- The operators that need an order. -/
def needsOrder : Comparator → Bool
  | eq | ne => false
  | lt | le | gt | ge => true

/-- The operator is decided, and it holds. -/
def Holds (op : Comparator) (x y : Json) : Prop :=
  op.apply x y = .ok true

variable {x y : Json}

/-- Where the values have an ordering, all six operators go by it. -/
theorem apply_of_ordering {o : Ordering} (h : Json.compareOrdered x y = some o)
    (op : Comparator) : op.apply x y = .ok (op.accepts o) := by
  cases op with
  | eq => rw [apply, Json.looseEq_of_compareOrdered h, accepts]
  | ne => rw [apply, Json.looseEq_of_compareOrdered h, accepts, bne]
  | lt | le | gt | ge => simp only [apply, h]

theorem apply_of_not_comparable {op : Comparator} (needed : op.needsOrder = true)
    (h : ¬ Json.Comparable x y) : op.apply x y = .error (.unordered op x.kind y.kind) := by
  have unordered := Json.compareOrdered_eq_none.2 h
  cases op with
  | eq | ne => cases needed
  | lt | le | gt | ge => simp only [apply, unordered]

theorem holds_iff {o : Ordering} (h : Json.compareOrdered x y = some o) (op : Comparator) :
    op.Holds x y ↔ op.accepts o = true := by
  rw [Holds, apply_of_ordering h, Except.ok.injEq]

theorem eq_holds_iff : eq.Holds x y ↔ Json.looseEq x y = true := by
  rw [Holds, apply, Except.ok.injEq]

/-- The operators `==` and `!=` are decided and opposite for all values. Each of the others fails
with a mismatch unless both values are numbers or both are strings, and is decided if they are. Then
just one of `<`, `==` and `>` holds, `<=` and `>=` say that it is not the third one, and `<` is `>`
on the swapped values. No object having two members of one name, `==` does not depend on the order
of any two values. -/
theorem operators_coherent (x y : Json) :
    (∃ b, eq.apply x y = .ok b ∧ ne.apply x y = .ok (!b)) ∧
      (∀ op : Comparator, op.needsOrder = true →
        (Json.Comparable x y → ∃ b, op.apply x y = .ok b) ∧
        (¬ Json.Comparable x y → op.apply x y = .error (.unordered op x.kind y.kind))) ∧
      (Json.Comparable x y →
        (lt.Holds x y ∧ ¬ eq.Holds x y ∧ ¬ gt.Holds x y ∨
          ¬ lt.Holds x y ∧ eq.Holds x y ∧ ¬ gt.Holds x y ∨
          ¬ lt.Holds x y ∧ ¬ eq.Holds x y ∧ gt.Holds x y) ∧
        (le.Holds x y ↔ lt.Holds x y ∨ eq.Holds x y) ∧
        (ge.Holds x y ↔ gt.Holds x y ∨ eq.Holds x y) ∧
        (lt.Holds x y ↔ gt.Holds y x)) ∧
      ∀ N : Number → Prop, Json.Over N x → Json.Over N y → (eq.Holds x y ↔ eq.Holds y x) := by
  refine ⟨⟨Json.looseEq x y, rfl, rfl⟩, fun op needed => ⟨fun h => ?_, fun h => ?_⟩, fun h => ?_,
    fun N hx hy => ?_⟩
  · obtain ⟨o, ho⟩ := h.exists_ordering
    exact ⟨op.accepts o, apply_of_ordering ho op⟩
  · exact apply_of_not_comparable needed h
  · obtain ⟨o, ho⟩ := h.exists_ordering
    simp only [holds_iff ho, holds_iff (Json.compareOrdered_of_swap ho)]
    cases o <;> decide
  · rw [eq_holds_iff, eq_holds_iff]
    exact ⟨Json.looseEq_symm hx hy, Json.looseEq_symm hy hx⟩

/-- Zero and the float `-0.0` are equal, and neither is less. Two objects that hold them under the
same names in different orders are equal as well, but have no order. -/
theorem operators_coherent_zeros :
    let zero : Json := .number (.int 0)
    let negative : Json := .number (.float Binary64.zero.neg)
    let a : Json := .object [("x", zero), ("y", .array [negative])]
    let b : Json := .object [("y", .array [zero]), ("x", negative)]
    Json.Comparable zero negative ∧ eq.Holds zero negative ∧ ¬ lt.Holds zero negative ∧
      ¬ gt.Holds negative zero ∧ le.Holds zero negative ∧ ge.Holds zero negative ∧
      ¬ Json.Comparable a b ∧ lt.needsOrder = true ∧
      lt.apply a b = .error (.unordered .lt .object .object) ∧
      Json.Over Number.Admitted a ∧ Json.Over Number.Admitted b ∧ eq.Holds a b ∧ eq.Holds b a := by
  intro zero negative a b
  have hz : Json.Over Number.Admitted zero := .number (Number.admitted_int.2 (by decide))
  have hn : Json.Over Number.Admitted negative := .number trivial
  have ha : Json.Over Number.Admitted a := .object (by decide) (by simp [hz, Json.Over.array, hn])
  have hb : Json.Over Number.Admitted b := .object (by decide) (by simp [hn, Json.Over.array, hz])
  have comparable : Json.Comparable zero negative := .inl ⟨rfl, rfl⟩
  have apart : ¬ Json.Comparable a b := by simp [Json.Comparable, a, Json.kind]
  obtain ⟨-, -, ordered, -⟩ := operators_coherent zero negative
  obtain ⟨one, le, ge, swapped⟩ := ordered comparable
  obtain ⟨-, decided, -, symmetric⟩ := operators_coherent a b
  have equal : eq.Holds zero negative := by rfl
  have notLess : ¬ lt.Holds zero negative := by
    rcases one with ⟨-, h, -⟩ | ⟨h, -, -⟩ | ⟨-, h, -⟩
    · exact absurd equal h
    · exact h
    · exact absurd equal h
  have objects : eq.Holds a b := by rfl
  exact ⟨comparable, equal, notLess, swapped.not.1 notLess, le.2 (.inr equal), ge.2 (.inr equal),
    apart, rfl, (decided lt rfl).2 apart, ha, hb, objects,
    (symmetric Number.Admitted ha hb).1 objects⟩

end PathQuery.Comparator
