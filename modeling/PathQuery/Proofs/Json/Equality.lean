import Mathlib.Data.List.Nodup
import Mathlib.Data.List.Perm.Subperm
import Mathlib.Tactic.TFAE
import PathQuery.Proofs.Json.MemberOrder
import PathQuery.Proofs.Json.NumberOrder

/-!
Loose equality and the order of numbers. Loose equality is reflexive and symmetric on all values.
Whether it is transitive is a matter of the numbers alone: it is on the values over a set of numbers
exactly when no float of the set equals two of its integers, and exactly then the comparison orders
the set.
-/

namespace PathQuery.Json

/-- A value as documents hold them, with numbers of `N`: no object has two members of one name. -/
inductive Over (N : Number → Prop) : Json → Prop
  | null : Over N .null
  | bool (b : Bool) : Over N (.bool b)
  | number {n : Number} : N n → Over N (.number n)
  | string (s : String) : Over N (.string s)
  | array {items : List Json} : (∀ x ∈ items, Over N x) → Over N (.array items)
  | object {members : List (String × Json)} : (members.map Prod.fst).Nodup →
      (∀ m ∈ members, Over N m.2) → Over N (.object members)

/-! ### Containers -/

theorem mem_of_lookup {ms : List (String × Json)} {name : String} {v : Json}
    (h : ms.lookup name = some v) : (name, v) ∈ ms := by
  obtain ⟨before, after, rfl, -⟩ := List.lookup_eq_some_iff.1 h
  simp

theorem lookup_of_mem {ms : List (String × Json)} (distinct : (ms.map Prod.fst).Nodup)
    {m : String × Json} (h : m ∈ ms) : ms.lookup m.1 = some m.2 := by
  obtain ⟨before, after, rfl⟩ := List.append_of_mem h
  refine List.lookup_eq_some_iff.2 ⟨before, after, rfl, fun p hp => ?_⟩
  rw [List.map_append, List.nodup_append] at distinct
  simpa using (distinct.2.2 p.1 (List.mem_map_of_mem hp) m.1 (by simp)).symm

theorem looseEqItems_iff {xs ys : List Json} :
    looseEqItems xs ys ↔ List.Forall₂ (fun x y => looseEq x y) xs ys := by
  induction xs generalizing ys with
  | nil => cases ys <;> simp [looseEqItems]
  | cons x rest ih => cases ys <;> simp [looseEqItems, ih]

/-- As many members, and each has its counterpart. -/
theorem looseEq_object_iff {ms ns : List (String × Json)} :
    looseEq (.object ms) (.object ns) ↔ ms.length = ns.length ∧
      ∀ m ∈ ms, ∃ v, ns.lookup m.1 = some v ∧ looseEq m.2 v := by
  rw [looseEq, Bool.and_eq_true, beq_iff_eq, looseEqMembers_eq_all, List.all_eq_true]
  simp only [Option.any_eq_true]

/-- Inclusion on one side is enough for objects of one size: each name of the second object is one
of the first. -/
theorem exists_counterpart {ms ns : List (String × Json)} (distinct : (ms.map Prod.fst).Nodup)
    (lengths : ms.length = ns.length)
    (included : ∀ m ∈ ms, ∃ v, ns.lookup m.1 = some v ∧ looseEq m.2 v) {n : String × Json}
    (hn : n ∈ ns) : ∃ m ∈ ms, m.1 = n.1 := by
  have names : ms.map Prod.fst ⊆ ns.map Prod.fst := by
    intro name h
    obtain ⟨m, hm, rfl⟩ := List.mem_map.1 h
    obtain ⟨v, hv, -⟩ := included m hm
    exact List.mem_map.2 ⟨_, mem_of_lookup hv, rfl⟩
  have same : (ms.map Prod.fst).Perm (ns.map Prod.fst) :=
    (distinct.subperm names).perm_of_length_le (by simp [lengths])
  exact List.mem_map.1 (same.mem_iff.2 (List.mem_map_of_mem hn))

/-! ### Reflexivity and symmetry -/

variable {N : Number → Prop} {x y z : Json}

theorem looseEq_refl (hx : Over N x) : looseEq x x := by
  induction hx with
  | null => rfl
  | bool b => simp [looseEq]
  | number _ => simp [looseEq, Number.compare_self]
  | string s => simp [looseEq]
  | array _ ih =>
      rw [looseEq, looseEqItems_iff, List.forall₂_same]
      exact ih
  | object distinct _ ih =>
      rw [looseEq_object_iff]
      exact ⟨rfl, fun m hm => ⟨m.2, lookup_of_mem distinct hm, ih m hm⟩⟩

theorem looseEq_symm (hx : Over N x) (hy : Over N y) (h : looseEq x y) : looseEq y x := by
  induction hx generalizing y with
  | null | bool _ | string _ => cases hy <;> simp_all [looseEq]
  | number _ =>
      cases hy with
      | number _ =>
          rw [looseEq, beq_iff_eq] at h ⊢
          rw [← Number.compare_swap, h]
          rfl
      | _ => cases h
  | @array xs _ ih =>
      cases hy with
      | @array ys hys =>
          rw [looseEq, looseEqItems_iff] at h ⊢
          rw [List.forall₂_iff_get] at h ⊢
          refine ⟨h.1.symm, fun i hi hi' => ?_⟩
          exact ih _ (List.get_mem _ _) (hys _ (List.get_mem _ _)) (h.2 i hi' hi)
      | _ => cases h
  | @object ms distinct _ ih =>
      cases hy with
      | @object ns distinct' hns =>
          rw [looseEq_object_iff] at h ⊢
          refine ⟨h.1.symm, fun n hn => ?_⟩
          obtain ⟨m, hm, name⟩ := exists_counterpart distinct h.1 h.2 hn
          obtain ⟨v, hv, equal⟩ := h.2 m hm
          obtain rfl : n.2 = v := by
            rw [name, lookup_of_mem distinct' hn] at hv
            exact Option.some.inj hv
          exact ⟨m.2, name ▸ lookup_of_mem distinct hm, ih m hm (hns n hn) equal⟩
      | _ => cases h

/-! ### Transitivity -/

theorem looseEq_array_trans {xs ys zs : List Json} (h : looseEq (.array xs) (.array ys))
    (h' : looseEq (.array ys) (.array zs))
    (each : ∀ x ∈ xs, ∀ y ∈ ys, ∀ z ∈ zs, looseEq x y → looseEq y z → looseEq x z) :
    looseEq (.array xs) (.array zs) := by
  rw [looseEq, looseEqItems_iff, List.forall₂_iff_get] at h h' ⊢
  refine ⟨h.1.trans h'.1, fun i hi hi' => ?_⟩
  have hj : i < ys.length := h.1 ▸ hi
  exact each _ (List.get_mem _ _) _ (List.get_mem _ _) _ (List.get_mem _ _) (h.2 i hi hj)
    (h'.2 i hj hi')

theorem looseEq_object_trans {ms ns os : List (String × Json)}
    (h : looseEq (.object ms) (.object ns)) (h' : looseEq (.object ns) (.object os))
    (each : ∀ m ∈ ms, ∀ n ∈ ns, ∀ o ∈ os,
      looseEq m.2 n.2 → looseEq n.2 o.2 → looseEq m.2 o.2) :
    looseEq (.object ms) (.object os) := by
  rw [looseEq_object_iff] at h h' ⊢
  refine ⟨h.1.trans h'.1, fun m hm => ?_⟩
  obtain ⟨v, hv, first⟩ := h.2 m hm
  obtain ⟨w, hw, second⟩ := h'.2 _ (mem_of_lookup hv)
  exact ⟨w, hw, each m hm _ (mem_of_lookup hv) _ (mem_of_lookup hw) first second⟩

theorem looseEq_trans (admitted : ∀ n, N n → n.Admitted) (coherent : Number.Coherent N)
    (hx : Over N x) (hy : Over N y) (hz : Over N z) (h : looseEq x y) (h' : looseEq y z) :
    looseEq x z := by
  induction hx generalizing y z with
  | null =>
      cases hy with
      | null => exact h'
      | _ => cases h
  | bool b =>
      cases hy with
      | bool b' =>
          obtain rfl : b = b' := by simpa [looseEq] using h
          exact h'
      | _ => cases h
  | string s =>
      cases hy with
      | string s' =>
          obtain rfl : s = s' := by simpa [looseEq] using h
          exact h'
      | _ => cases h
  | number ha =>
      cases hy with
      | number hb =>
          cases hz with
          | number hc =>
              rw [looseEq, beq_iff_eq] at h h' ⊢
              exact coherent.compare_eq_trans admitted ha hb hc h h'
          | _ => cases h'
      | _ => cases h
  | array _ ih =>
      cases hy with
      | array hys =>
          cases hz with
          | array hzs =>
              exact looseEq_array_trans h h' fun x hx y hy z hz => ih x hx (hys y hy) (hzs z hz)
          | _ => cases h'
      | _ => cases h
  | object _ _ ih =>
      cases hy with
      | object _ hns =>
          cases hz with
          | object _ hos =>
              exact looseEq_object_trans h h' fun m hm n hn o ho => ih m hm (hns n hn) (hos o ho)
          | _ => cases h'
      | _ => cases h

/-! ### The exact condition -/

def OrderTransitive (N : Number → Prop) : Prop :=
  ∀ a b c, N a → N b → N c → compareOrdered (.number a) (.number b) ≠ some .gt →
    compareOrdered (.number b) (.number c) ≠ some .gt →
      compareOrdered (.number a) (.number c) ≠ some .gt

def EqualityTransitive (N : Number → Prop) : Prop :=
  ∀ x y z, Over N x → Over N y → Over N z → looseEq x y → looseEq y z → looseEq x z

/-- On the values over a set of numbers, loose equality is reflexive and symmetric, and the
comparison of numbers, by the rule of each pair, finds two equal when neither is less. It is a total
preorder exactly when no float of the set equals two of its integers, and exactly then loose
equality is an equivalence. -/
theorem looseEq_equivalence_exact (N : Number → Prop) (admitted : ∀ n, N n → n.Admitted) :
    (∀ x, Over N x → looseEq x x) ∧
    (∀ x y, Over N x → Over N y → looseEq x y → looseEq y x) ∧
    (∀ a b, N a → N b →
      compareOrdered (.number a) (.number b) = some (a.compareByRule b) ∧
      (compareOrdered (.number a) (.number b) = some .eq ↔
        compareOrdered (.number a) (.number b) ≠ some .lt ∧
          compareOrdered (.number b) (.number a) ≠ some .lt)) ∧
    [Number.Coherent N, OrderTransitive N, EqualityTransitive N].TFAE := by
  refine ⟨fun x => looseEq_refl, fun x y => looseEq_symm, fun a b ha hb => ⟨?_, ?_⟩, ?_⟩
  · exact congrArg some (Number.compare_eq_compareByRule (admitted a ha) (admitted b hb))
  · simp only [compareOrdered, ← Number.compare_swap a b]
    cases a.compare b <;> simp
  · tfae_have 1 ↔ 2 := by
      rw [Number.coherent_iff_trans admitted]
      simp [OrderTransitive, compareOrdered]
    tfae_have 1 → 3 := fun coherent x y z => looseEq_trans admitted coherent
    tfae_have 3 → 1 := by
      intro trans m n f hm hn hf hmf hnf
      have back : (Number.float f).compare (.int n) = .eq := by
        rw [← Number.compare_swap, hnf]
        rfl
      have equal : looseEq (.number (.int m)) (.number (.int n)) :=
        trans _ (.number (.float f)) _ (.number hm) (.number hf) (.number hn)
          (by simp [looseEq, hmf]) (by simp [looseEq, back])
      rw [looseEq, beq_iff_eq] at equal
      exact compare_eq_iff_eq.1 equal
    tfae_finish

/-- Numbers whose integers have 53 bits at most. -/
def Small (n : Number) : Prop :=
  ∀ i, n = .int i → i.natAbs ≤ 2 ^ 53

/-- Integers of 53 bits and all floats. -/
theorem looseEq_equivalence_small :
    (∀ n, Small n → n.Admitted) ∧ OrderTransitive Small ∧ EqualityTransitive Small := by
  have admitted (n : Number) (h : Small n) : n.Admitted := by
    cases n with
    | int i =>
        have := h i rfl
        exact Number.admitted_int.2 (by omega)
    | float _ => trivial
  have exact_ := (looseEq_equivalence_exact Small admitted).2.2.2
  have coherent : Number.Coherent Small := Number.coherent_of_small fun n h => h n rfl
  exact ⟨admitted, (exact_.out 0 1).1 coherent, (exact_.out 0 2).1 coherent⟩

/-- The float `2 ^ 53` equals that integer and the next one. -/
theorem mixed_numbers_not_transitive :
    ¬ OrderTransitive Number.Admitted ∧ ¬ EqualityTransitive Number.Admitted := by
  let float : Number := .float ⟨false, 1 <<< 52, 1075, by decide, by decide, by decide⟩
  have admitted {n : Int} (h : n = 9007199254740993 ∨ n = 9007199254740992) :
      (Number.int n).Admitted := Number.admitted_int.2 (by omega)
  have next : (Number.int 9007199254740993).compare float = .eq := by decide +kernel
  have same : float.compare (.int 9007199254740992) = .eq := by decide +kernel
  have apart : (Number.int 9007199254740993).compare (.int 9007199254740992) = .gt := by decide
  constructor
  · intro trans
    refine trans _ float _ (admitted (.inl rfl)) trivial (admitted (.inr rfl)) ?_ ?_
      (congrArg some apart)
    · simp [compareOrdered, next]
    · simp [compareOrdered, same]
  · intro trans
    have equal := trans _ (.number float) _ (.number (admitted (.inl rfl))) (.number trivial)
      (.number (admitted (.inr rfl))) (by simp [looseEq, next]) (by simp [looseEq, same])
    rw [looseEq, apart] at equal
    cases equal

end PathQuery.Json
