import Mathlib.Data.List.Induction
import PathQuery.Proofs.Evaluation.Equations
import PathQuery.Proofs.Json.Equality

/-!
Removing duplicates. Of the items that are gone through each is kept unless an item kept before is
loosely equal to it. So each item has an equal one among those kept, at its place or before it; and
since loose equality is symmetric on values as documents hold them, no two of those kept are equal
in either order. Loose equality need not be transitive for this.
-/

namespace PathQuery

open Json (looseEq Over)

/-- Some of the items with their places: no two of them are equal, and each item is equal to one at
its place or before it. -/
structure Json.Represents (items : List Json) (kept : List (Json × Nat)) : Prop where
  sublist : kept.Sublist items.zipIdx
  apart : kept.Pairwise fun p q => looseEq p.1 q.1 = false ∧ looseEq q.1 p.1 = false
  covers : ∀ p ∈ items.zipIdx, ∃ q ∈ kept, q.2 ≤ p.2 ∧ looseEq q.1 p.1 ∧ looseEq p.1 q.1

theorem zipIdx_concat {α : Type} (xs : List α) (x : α) :
    (xs ++ [x]).zipIdx = xs.zipIdx ++ [(x, xs.length)] := by
  simp [List.zipIdx_append]

namespace Json.Represents

variable {N : Number → Prop} {items : List Json} {kept : List (Json × Nat)} {x : Json}

theorem nil : Represents [] [] where
  sublist := .slnil
  apart := .nil
  covers := nofun

theorem kept_over (h : Represents items kept) (hs : ∀ x ∈ items, Over N x) :
    ∀ q ∈ kept, Over N q.1 :=
  fun q hq => hs q.1 (List.fst_mem_of_mem_zipIdx (h.sublist.subset hq))

/-- An item that is equal to one of those kept is represented by it. -/
theorem concat_of_equal (h : Represents items kept) (hs : ∀ x ∈ items, Over N x) (hx : Over N x)
    {q : Json × Nat} (hq : q ∈ kept) (equal : looseEq q.1 x) :
    Represents (items ++ [x]) kept where
  sublist := by
    rw [zipIdx_concat]
    exact h.sublist.trans (List.sublist_append_left _ _)
  apart := h.apart
  covers := by
    rw [zipIdx_concat, List.forall_mem_append]
    refine ⟨h.covers, List.forall_mem_singleton.2 ⟨q, hq, ?_, equal, ?_⟩⟩
    · exact (List.snd_lt_of_mem_zipIdx (h.sublist.subset hq)).le
    · exact looseEq_symm (h.kept_over hs q hq) hx equal

/-- An item that none of those kept is equal to is kept with them. -/
theorem concat_of_apart (h : Represents items kept) (hs : ∀ x ∈ items, Over N x) (hx : Over N x)
    (apart : ∀ q ∈ kept, looseEq q.1 x = false) :
    Represents (items ++ [x]) (kept ++ [(x, items.length)]) where
  sublist := by
    rw [zipIdx_concat]
    exact h.sublist.append (.refl _)
  apart := by
    refine List.pairwise_append.2 ⟨h.apart, List.pairwise_singleton _ _, fun q hq p hp => ?_⟩
    obtain rfl := List.mem_singleton.1 hp
    refine ⟨apart q hq, Bool.eq_false_iff.2 fun equal => ?_⟩
    have back := looseEq_symm hx (h.kept_over hs q hq) equal
    rw [apart q hq] at back
    cases back
  covers := by
    rw [zipIdx_concat, List.forall_mem_append]
    constructor
    · intro p hp
      obtain ⟨q, hq, equal⟩ := h.covers p hp
      exact ⟨q, List.mem_append_left _ hq, equal⟩
    · have self := looseEq_refl hx
      exact List.forall_mem_singleton.2 ⟨(x, items.length), by simp, le_refl _, self, self⟩

end Json.Represents

namespace Call

variable {N : Number → Prop} {items xs : List Json}

theorem distinct_concat (xs : List Json) (x : Json) : distinct (xs ++ [x]) =
    if (distinct xs).any fun s => looseEq s x then distinct xs else distinct xs ++ [x] := by
  simp [distinct, List.foldl_append]

theorem distinct_sublist (items : List Json) : (distinct items).Sublist items := by
  induction items using List.reverseRecOn with
  | nil => exact .slnil
  | append_singleton xs x ih =>
      rw [distinct_concat]
      split
      · exact ih.trans (List.sublist_append_left xs [x])
      · exact ih.append (.refl [x])

theorem exists_represents (hs : ∀ x ∈ items, Over N x) :
    ∃ kept, Json.Represents items kept ∧ kept.map Prod.fst = distinct items := by
  induction items using List.reverseRecOn with
  | nil => exact ⟨[], .nil, rfl⟩
  | append_singleton xs x ih =>
      rw [List.forall_mem_append, List.forall_mem_singleton] at hs
      obtain ⟨kept, h, values⟩ := ih hs.1
      rw [distinct_concat, ← values, List.any_map]
      split
      · rename_i found
        obtain ⟨q, hq, equal⟩ := List.any_eq_true.1 found
        exact ⟨kept, h.concat_of_equal hs.1 hs.2 hq equal, rfl⟩
      · rename_i apart
        refine ⟨kept ++ [(x, xs.length)], h.concat_of_apart hs.1 hs.2 ?_, by simp⟩
        simpa using apart

theorem head?_distinct (items : List Json) : (distinct items).head? = items.head? := by
  induction items using List.reverseRecOn with
  | nil => rfl
  | append_singleton xs x ih =>
      rw [distinct_concat, List.head?_append, ← ih]
      split
      · rename_i found
        obtain ⟨s, hs, -⟩ := List.any_eq_true.1 found
        obtain ⟨first, rest, split⟩ := List.exists_cons_of_ne_nil (List.ne_nil_of_mem hs)
        rw [split]
        rfl
      · exact List.head?_append

/-- Where no item is equal to one before it, all are kept. -/
theorem distinct_of_pairwise (h : xs.Pairwise fun s x => looseEq s x = false) :
    distinct xs = xs := by
  induction xs using List.reverseRecOn with
  | nil => rfl
  | append_singleton xs x ih =>
      rw [List.pairwise_append] at h
      have apart : ¬ (xs.any fun s => looseEq s x) = true := by
        simpa using fun s hs => h.2.2 s hs x (List.mem_singleton_self x)
      rw [distinct_concat, ih h.1, if_neg apart]

/-- What `unique` gives are items in their order, with the first one in front, such that no two are
loosely equal in either order and each item is loosely equal to one that is not behind it. Applied
once more it changes nothing. -/
theorem unique_represents (c : Call) (hs : ∀ x ∈ c.input.items, Over N x) :
    ∃ kept, Json.Represents c.input.items kept ∧
      c.unique = .ok (.many (kept.map Prod.fst)) ∧
      (kept.map Prod.fst).Sublist c.input.items ∧
      (kept.map Prod.fst).head? = c.input.items.head? ∧
      ∀ name args, unique ⟨name, args, .many (kept.map Prod.fst)⟩ =
        .ok (.many (kept.map Prod.fst)) := by
  obtain ⟨kept, h, values⟩ := exists_represents hs
  refine ⟨kept, h, ?_, values ▸ distinct_sublist _, ?_, fun name args => ?_⟩
  · rw [unique, values]
  · rw [values, head?_distinct]
  · have apart : (kept.map Prod.fst).Pairwise fun s x => looseEq s x = false :=
      List.pairwise_map.2 (h.apart.imp And.left)
    rw [unique, ValueSet.items_many, distinct_of_pairwise apart]

/-- The third item is the first one with its members in another order, and the fourth is `-0.0`. -/
theorem unique_represents_zeros :
    let zero : Json := .number (.int 0)
    let negative : Json := .number (.float Binary64.zero.neg)
    let a : Json := .object [("x", zero), ("y", .array [negative])]
    let b : Json := .object [("y", .array [zero]), ("x", negative)]
    let text : Json := .string "0"
    let c : Call := ⟨"unique", [], .single (.array [a, zero, b, negative, text])⟩
    (∀ x ∈ c.input.items, Over Number.Admitted x) ∧
      c.unique = .ok (.many [a, zero, text]) ∧
      (∃ kept, Json.Represents c.input.items kept ∧ kept.map Prod.fst = [a, zero, text]) ∧
      unique ⟨"unique", [], .many [a, zero, text]⟩ = .ok (.many [a, zero, text]) := by
  intro zero negative a b text c
  have hz : Over Number.Admitted zero := .number (Number.admitted_int.2 (by decide))
  have hn : Over Number.Admitted negative := .number trivial
  have ha : Over Number.Admitted a := .object (by decide) (by simp [hz, Over.array, hn])
  have hb : Over Number.Admitted b := .object (by decide) (by simp [hn, Over.array, hz])
  have hs : ∀ x ∈ c.input.items, Over Number.Admitted x := by
    show ∀ x ∈ [a, zero, b, negative, text], Over Number.Admitted x
    simp [hz, hn, ha, hb, text, Over.string]
  have once : c.unique = .ok (.many [a, zero, text]) := rfl
  obtain ⟨kept, h, given, -, -, again⟩ := unique_represents c hs
  have values : [a, zero, text] = kept.map Prod.fst :=
    congrArg ValueSet.values (Except.ok.inj (once.symm.trans given))
  rw [← values] at again
  exact ⟨hs, once, ⟨kept, h, values.symm⟩, again "unique" []⟩

end Call

end PathQuery
