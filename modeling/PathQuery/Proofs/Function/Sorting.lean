import Mathlib.Data.List.Induction
import PathQuery.Function.Builtin
import PathQuery.Proofs.Json.Ordering

/-!
Sorting and extremes. The first item decides what the others can be compared with, so it does not
matter that `sort` looks at neighbours, and `min` and `max` at the best item so far: all three find
the same lists mixed. Where the comparison is a total preorder of the items, sorting puts them into
the one ascending order that keeps equal items as they came, and the extremes are as great as its
ends. Where it is none, the extremes are still found, but it is left open what sorting a long list
gives.
-/

namespace PathQuery

/-- Succeeds where `p` holds, and fails with a mismatch elsewhere. -/
structure Outcome.SucceedsIff {α : Type} (p : Prop) (x : Outcome α) : Prop where
  ok : p → ∃ a, x = .ok a
  mismatch : ¬ p → ∃ m, x = .mismatch m

theorem Outcome.SucceedsIff.congr {α : Type} {p q : Prop} {x : Outcome α} (h : SucceedsIff p x)
    (same : p ↔ q) : SucceedsIff q x :=
  propext same ▸ h

open Outcome (SucceedsIff)
open Json (Comparable AtMost Ranked compareOrdered)

/-! ### Which lists fail -/

/-- Two items or more that are neither all numbers nor all strings. -/
def Json.Mixed (items : List Json) : Prop :=
  2 ≤ items.length ∧ ¬ ((∀ x ∈ items, x.kind = .number) ∨ ∀ x ∈ items, x.kind = .string)

theorem Json.not_mixed_nil : ¬ Mixed [] :=
  fun h => nomatch h.1

theorem Json.not_mixed_cons {x : Json} {rest : List Json} :
    ¬ Mixed (x :: rest) ↔ ∀ y ∈ rest, Comparable x y := by
  constructor
  · intro h y hy
    by_contra apart
    have two : 2 ≤ (x :: rest).length := Nat.succ_le_succ (List.length_pos_of_mem hy)
    refine h ⟨two, ?_⟩
    rintro (all | all)
    · exact apart (.inl ⟨all x List.mem_cons_self, all y (List.mem_cons_of_mem x hy)⟩)
    · exact apart (.inr ⟨all x List.mem_cons_self, all y (List.mem_cons_of_mem x hy)⟩)
  · rintro h ⟨two, apart⟩
    have kinds : ∀ y ∈ x :: rest, y.kind = x.kind :=
      List.forall_mem_cons.2 ⟨rfl, fun y hy => (h y hy).kind_eq.symm⟩
    obtain ⟨y, hy⟩ := List.exists_mem_of_length_pos (Nat.le_of_succ_le_succ two)
    rcases h y hy with ⟨hx, -⟩ | ⟨hx, -⟩
    · exact apart (.inl fun z hz => (kinds z hz).trans hx)
    · exact apart (.inr fun z hz => (kinds z hz).trans hx)

theorem Json.comparable_of_not_mixed {items : List Json} (h : ¬ Mixed items)
    (two : 2 ≤ items.length) : ∀ x ∈ items, ∀ y ∈ items, Comparable x y := by
  have kinds : (∀ x ∈ items, x.kind = .number) ∨ ∀ x ∈ items, x.kind = .string := by
    by_contra apart
    exact h ⟨two, apart⟩
  intro x hx y hy
  exact kinds.imp (fun all => ⟨all x hx, all y hy⟩) fun all => ⟨all x hx, all y hy⟩

namespace Call

/-- Neighbours that have an order all have one with the first item. -/
theorem unordered?_cons_eq_none {x : Json} {rest : List Json} :
    unordered? (x :: rest) = none ↔ ∀ y ∈ rest, Comparable x y := by
  induction rest generalizing x with
  | nil => simp [unordered?]
  | cons y rest ih =>
      rw [unordered?, List.forall_mem_cons]
      by_cases h : Comparable x y
      · obtain ⟨o, ho⟩ := h.exists_ordering
        simp only [ho, Option.isNone_some, Bool.false_eq_true, if_false, ih, h, true_and, h.congr]
      · simp [Json.compareOrdered_eq_none.2 h, h]

theorem unordered?_eq_none_iff {items : List Json} :
    unordered? items = none ↔ ¬ Json.Mixed items := by
  cases items with
  | nil => exact ⟨fun _ => Json.not_mixed_nil, fun _ => rfl⟩
  | cons x rest => exact unordered?_cons_eq_none.trans Json.not_mixed_cons.symm

variable (c : Call)

theorem sort_of_mixed (mixed : Json.Mixed c.input.items) : ∃ m, c.sort = .mismatch m := by
  rw [sort]
  split
  · exact ⟨_, rfl⟩
  · rename_i ordered
    exact absurd mixed (unordered?_eq_none_iff.1 ordered)

theorem sort_of_not_mixed (alike : ¬ Json.Mixed c.input.items) :
    c.sort = if isSortable c.input.items then .ok (.many (sorted c.input.items))
      else .error (.disorder c.input.items) := by
  rw [sort, unordered?_eq_none_iff.2 alike]

/-- What sorting gives is settled for few items, and for those that the comparison is transitive
on. -/
theorem isSortable_iff {items : List Json} (admitted : ∀ n, .number n ∈ items → n.Admitted)
    (alike : ¬ Json.Mixed items) : isSortable items ↔ items.length ≤ insertionLimit ∨
      ∀ x ∈ items, ∀ y ∈ items, ∀ z ∈ items, AtMost x y → AtMost y z → AtMost x z := by
  rw [isSortable, Bool.or_eq_true, decide_eq_true_eq]
  by_cases few : items.length ≤ insertionLimit
  · simp [few]
  · have two : 2 ≤ items.length := by
      rw [insertionLimit] at few
      omega
    have comparable := Json.comparable_of_not_mixed alike two
    rw [Json.isCoherent_iff_ranked admitted comparable]
    simp only [few, false_or]
    exact ⟨fun ranked => ranked.trans, fun trans => ⟨comparable, trans⟩⟩

/-- The next item if it is better than the best one so far, which stays otherwise. -/
def pick (name : String) (better : Ordering → Bool) (best item : Json) : Outcome Json :=
  match compareOrdered best item with
  | some o => .ok (if better o then item else best)
  | none => .mismatch (.incomparable name best.kind item.kind)

variable {better : Ordering → Bool} {name : String} {best first item : Json} {rest : List Json}

theorem pick_of_ordering {o : Ordering} (h : compareOrdered best item = some o) :
    pick name better best item = .ok (if better o then item else best) := by
  simp only [pick, h]

theorem pick_of_not_comparable (h : ¬ Comparable best item) :
    pick name better best item = .mismatch (.incomparable name best.kind item.kind) := by
  simp only [pick, Json.compareOrdered_eq_none.2 h]

variable {c}

theorem extreme_of_cons (h : c.input.items = first :: rest) :
    c.extreme better = do return .single (← rest.foldlM (pick c.name better) first) := by
  rw [extreme, h]
  rfl

/-- The best so far is one of the items, so it can be compared with the same ones as the first. -/
theorem foldlM_pick_succeedsIff :
    SucceedsIff (∀ y ∈ rest, Comparable first y) (rest.foldlM (pick name better) first) := by
  induction rest generalizing first with
  | nil => exact ⟨fun _ => ⟨first, rfl⟩, fun h => absurd (fun _ => nofun) h⟩
  | cons y rest ih =>
      rw [List.foldlM_cons, List.forall_mem_cons]
      by_cases h : Comparable first y
      · obtain ⟨o, ho⟩ := h.exists_ordering
        rw [pick_of_ordering ho]
        refine SucceedsIff.congr ih ?_
        cases better o with
        | false => simp [h]
        | true => simp [h, h.congr]
      · rw [pick_of_not_comparable h]
        exact ⟨fun all => absurd all.1 h, fun _ => ⟨_, rfl⟩⟩

theorem extreme_succeedsIff (c : Call) (better : Ordering → Bool) :
    SucceedsIff (¬ Json.Mixed c.input.items) (c.extreme better) := by
  cases h : c.input.items with
  | nil =>
      rw [extreme, h]
      exact ⟨fun _ => ⟨_, rfl⟩, fun mixed => absurd Json.not_mixed_nil mixed⟩
  | cons first rest =>
      rw [extreme_of_cons h, Json.not_mixed_cons]
      have folded : SucceedsIff (∀ y ∈ rest, Comparable first y)
          (rest.foldlM (pick c.name better) first) := foldlM_pick_succeedsIff
      constructor
      · intro all
        obtain ⟨best, hb⟩ := folded.ok all
        rw [hb]
        exact ⟨_, rfl⟩
      · intro apart
        obtain ⟨m, hm⟩ := folded.mismatch apart
        rw [hm]
        exact ⟨m, rfl⟩

/-! ### Extremes -/

/-- The item that is kept is related to the other one. -/
structure Prefers (better : Ordering → Bool) (R : Json → Json → Prop) : Prop where
  taken : ∀ {x y o}, compareOrdered x y = some o → better o = true → R y x
  kept : ∀ {x y o}, compareOrdered x y = some o → better o = false → R x y

theorem prefers_least : Prefers (· == .gt) AtMost where
  taken h greater := Json.atMost_of_ne_lt h (by rintro rfl; cases greater)
  kept h notGreater := ⟨_, h, by rintro rfl; cases notGreater⟩

theorem prefers_greatest : Prefers (· == .lt) fun x y => AtMost y x where
  taken h less := ⟨_, h, by rintro rfl; cases less⟩
  kept h notLess := Json.atMost_of_ne_lt h (by rintro rfl; cases notLess)

variable {R : Json → Json → Prop} {items : List Json}

theorem Prefers.refl (prefers : Prefers better R) (h : Comparable first first) :
    R first first := by
  have same := Json.compareOrdered_self h
  cases hb : better .eq with
  | false => exact prefers.kept same hb
  | true => exact prefers.taken same hb

theorem exists_pick (name : String) (prefers : Prefers better R) (h : Comparable best item) :
    ∃ next, pick name better best item = .ok next ∧ (next = best ∨ next = item) ∧
      R next best ∧ R next item := by
  obtain ⟨o, ho⟩ := h.exists_ordering
  rw [pick_of_ordering ho]
  cases hb : better o with
  | false => exact ⟨best, rfl, .inl rfl, prefers.refl (h.trans h.symm), prefers.kept ho hb⟩
  | true => exact ⟨item, rfl, .inr rfl, prefers.taken ho hb, prefers.refl (h.symm.trans h)⟩

/-- The best of the items is related to them all, by induction on those that are still to come. -/
theorem foldlM_pick_best (name : String) (prefers : Prefers better R) (ranked : Ranked items)
    (trans : ∀ x ∈ items, ∀ y ∈ items, ∀ z ∈ items, R x y → R y z → R x z)
    (hf : first ∈ items) (hr : ∀ y ∈ rest, y ∈ items) :
    ∃ best ∈ first :: rest, rest.foldlM (pick name better) first = .ok best ∧
      ∀ y ∈ first :: rest, R best y := by
  induction rest generalizing first with
  | nil =>
      refine ⟨first, List.mem_cons_self, rfl, ?_⟩
      simpa using prefers.refl (ranked.comparable first hf first hf)
  | cons y rest ih =>
      rw [List.forall_mem_cons] at hr
      obtain ⟨next, picked, which, before, here⟩ :=
        exists_pick name prefers (ranked.comparable first hf y hr.1)
      have hnext : next ∈ items := by
        rcases which with rfl | rfl
        · exact hf
        · exact hr.1
      obtain ⟨best, mem, folded, related⟩ := ih hnext hr.2
      rw [List.forall_mem_cons] at related
      have hbest : best ∈ items := List.forall_mem_cons.2 ⟨hnext, hr.2⟩ best mem
      have carried {z : Json} (hz : z ∈ items) (h : R next z) : R best z :=
        trans best hbest next hnext z hz related.1 h
      rw [List.foldlM_cons, picked]
      refine ⟨best, ?_, folded, ?_⟩
      · rcases List.mem_cons.1 mem with rfl | mem
        · rcases which with rfl | rfl
          · exact List.mem_cons_self
          · exact List.mem_cons_of_mem first List.mem_cons_self
        · exact List.mem_cons_of_mem first (List.mem_cons_of_mem y mem)
      · exact List.forall_mem_cons.2
          ⟨carried hf before, List.forall_mem_cons.2 ⟨carried hr.1 here, related.2⟩⟩

theorem extreme_best (prefers : Prefers better R) (ranked : Ranked c.input.items)
    (trans : ∀ x ∈ c.input.items, ∀ y ∈ c.input.items, ∀ z ∈ c.input.items,
      R x y → R y z → R x z) (notEmpty : c.input.items ≠ []) :
    ∃ best ∈ c.input.items, c.extreme better = .ok (.single best) ∧
      ∀ y ∈ c.input.items, R best y := by
  obtain ⟨first, rest, split⟩ := List.exists_cons_of_ne_nil notEmpty
  rw [extreme_of_cons split]
  rw [split] at ranked trans ⊢
  obtain ⟨best, mem, folded, related⟩ := foldlM_pick_best c.name prefers ranked trans
    List.mem_cons_self fun y hy => List.mem_cons_of_mem first hy
  rw [folded]
  exact ⟨best, mem, rfl, related⟩

end Call

/-! ### Sorting -/

/-- The items that compare as equal to `x`, in their order. -/
def Json.equalTo (x : Json) (items : List Json) : List Json :=
  items.filter fun y => compareOrdered x y == some .eq

/-- The items in ascending order, with equal ones as they came. -/
structure Json.StablySorted (items sorted : List Json) : Prop where
  perm : sorted.Perm items
  ascending : sorted.Pairwise AtMost
  stable : ∀ x ∈ items, equalTo x sorted = equalTo x items

namespace Call

open Json (equalTo)

variable {items done xs ys : List Json} {a x : Json}

theorem sorted_concat (xs : List Json) (x : Json) :
    sorted (xs ++ [x]) = (insertDescending x (sorted xs).reverse).reverse := by
  simp [sorted, List.foldl_append]

theorem insertDescending_perm (x : Json) (done : List Json) :
    (insertDescending x done).Perm (x :: done) := by
  induction done with
  | nil => exact .refl _
  | cons y rest ih =>
      rw [insertDescending]
      split
      · exact (ih.cons y).trans (.swap x y rest)
      · exact .refl _

theorem sorted_perm (items : List Json) : (sorted items).Perm items := by
  induction items using List.reverseRecOn with
  | nil => exact .refl _
  | append_singleton xs x ih =>
      have inserted := (List.reverse_perm _).trans (insertDescending_perm x (sorted xs).reverse)
      have before := ((List.reverse_perm (sorted xs)).trans ih).cons x
      rw [sorted_concat]
      exact (inserted.trans before).trans (List.perm_append_singleton x xs).symm

theorem forall_mem_sorted_reverse (hs : ∀ x ∈ xs, x ∈ items) :
    ∀ y ∈ (sorted xs).reverse, y ∈ items :=
  fun y hy => hs y ((sorted_perm xs).mem_iff.1 (List.mem_reverse.1 hy))

/-- What is inserted stops at the first item that is at most as great, and so are all behind it. -/
theorem pairwise_insertDescending (ranked : Ranked items) (hx : x ∈ items)
    (hd : ∀ y ∈ done, y ∈ items) (descending : done.Pairwise fun y z => AtMost z y) :
    (insertDescending x done).Pairwise fun y z => AtMost z y := by
  induction done with
  | nil => exact List.pairwise_singleton _ x
  | cons y rest ih =>
      rw [List.forall_mem_cons] at hd
      rw [List.pairwise_cons] at descending
      obtain ⟨o, ho⟩ := (ranked.comparable x hx y hd.1).exists_ordering
      rw [insertDescending]
      split
      · rename_i less
        have behind : ∀ z ∈ insertDescending x rest, AtMost z y := by
          intro z hz
          rw [(insertDescending_perm x rest).mem_iff] at hz
          rcases List.mem_cons.1 hz with rfl | hz
          · exact ⟨_, less, nofun⟩
          · exact descending.1 z hz
        exact List.pairwise_cons.2 ⟨behind, ih hd.2 descending.2⟩
      · rename_i notLess
        have next : AtMost y x := Json.atMost_of_ne_lt ho (by rintro rfl; exact notLess ho)
        have behind : ∀ z ∈ y :: rest, AtMost z x := by
          refine List.forall_mem_cons.2 ⟨next, fun z hz => ?_⟩
          exact ranked.trans z (hd.2 z hz) y hd.1 x hx (descending.1 z hz) next
        exact List.pairwise_cons.2 ⟨behind, List.pairwise_cons.2 descending⟩

/-- What is inserted passes by no item that it is equal to. -/
theorem equalTo_insertDescending (ranked : Ranked items) (ha : a ∈ items) (hx : x ∈ items)
    (hd : ∀ y ∈ done, y ∈ items) :
    equalTo a (insertDescending x done) = equalTo a (x :: done) := by
  induction done with
  | nil => rfl
  | cons y rest ih =>
      rw [List.forall_mem_cons] at hd
      rw [insertDescending]
      split
      · rename_i less
        have passed : equalTo a (insertDescending x rest) = equalTo a (x :: rest) := ih hd.2
        unfold equalTo at passed ⊢
        rw [List.filter_cons, passed, List.filter_cons, List.filter_cons, List.filter_cons]
        by_cases hy : compareOrdered a y = some .eq
        · -- of two items that are equal to `a` neither precedes the other
          have other : compareOrdered a x ≠ some .eq := by
            intro equal
            have back := Json.compareOrdered_of_swap equal
            rw [ranked.eq_trans hx ha hd.1 back hy] at less
            cases less
          simp [hy, other]
        · simp [hy]
      · rfl

theorem ascending_sorted (ranked : Ranked items) (hs : ∀ x ∈ xs, x ∈ items) :
    (sorted xs).Pairwise AtMost := by
  induction xs using List.reverseRecOn with
  | nil => exact .nil
  | append_singleton xs x ih =>
      rw [List.forall_mem_append, List.forall_mem_singleton] at hs
      rw [sorted_concat, List.pairwise_reverse]
      have before := forall_mem_sorted_reverse hs.1
      exact pairwise_insertDescending ranked hs.2 before (List.pairwise_reverse.2 (ih hs.1))

theorem equalTo_sorted (ranked : Ranked items) (ha : a ∈ items) (hs : ∀ x ∈ xs, x ∈ items) :
    equalTo a (sorted xs) = equalTo a xs := by
  induction xs using List.reverseRecOn with
  | nil => rfl
  | append_singleton xs x ih =>
      rw [List.forall_mem_append, List.forall_mem_singleton] at hs
      have before := forall_mem_sorted_reverse hs.1
      have inserted := equalTo_insertDescending ranked ha hs.2 before
      have sorted_ := ih hs.1
      unfold equalTo at inserted sorted_ ⊢
      rw [sorted_concat, List.filter_reverse, inserted, ← List.filter_reverse, List.reverse_cons,
        List.reverse_reverse, List.filter_append, List.filter_append, sorted_]

theorem sorted_stablySorted (ranked : Ranked items) : Json.StablySorted items (sorted items) where
  perm := sorted_perm items
  ascending := ascending_sorted ranked fun _ hx => hx
  stable _ ha := equalTo_sorted ranked ha fun _ hx => hx

/-- Of two ascending lists of the same items the first items are equal, and then the same one if
equal items come in the same order. -/
theorem eq_of_ascending (ranked : Ranked items) (hs : ∀ x ∈ xs, x ∈ items) (perm : xs.Perm ys)
    (ascending : xs.Pairwise AtMost) (ascending' : ys.Pairwise AtMost)
    (same : ∀ a ∈ xs, equalTo a xs = equalTo a ys) : xs = ys := by
  induction xs generalizing ys with
  | nil => exact (List.nil_perm.1 perm).symm
  | cons x xs ih =>
      cases ys with
      | nil => exact absurd (List.perm_nil.1 perm) nofun
      | cons y ys =>
          rw [List.forall_mem_cons] at hs
          rw [List.pairwise_cons] at ascending ascending'
          have self := Json.atMost_self (ranked.comparable x hs.1 x hs.1)
          have up : AtMost x y := by
            rcases List.mem_cons.1 (perm.mem_iff.2 List.mem_cons_self) with rfl | hy
            · exact self
            · exact ascending.1 y hy
          have down : AtMost y x := by
            rcases List.mem_cons.1 (perm.mem_iff.1 List.mem_cons_self) with rfl | hx
            · exact self
            · exact ascending'.1 x hx
          obtain rfl : x = y := by
            have heads := same x List.mem_cons_self
            have equal := Json.compareOrdered_self self.comparable
            simp only [equalTo, List.filter_cons, equal, up.antisymm down, beq_self_eq_true,
              if_true, List.cons.injEq] at heads
            exact heads.1
          rw [ih hs.2 perm.cons_inv ascending.2 ascending'.2 fun a ha => ?_]
          have whole := same a (List.mem_cons_of_mem x ha)
          unfold equalTo at whole ⊢
          rw [List.filter_cons, List.filter_cons] at whole
          split at whole
          · exact (List.cons.inj whole).2
          · exact whole

end Call

namespace Json

variable {items sorted sorted' : List Json} {x y : Json}

theorem StablySorted.unique (ranked : Ranked items) (h : StablySorted items sorted)
    (h' : StablySorted items sorted') : sorted = sorted' := by
  have mem {x : Json} (hx : x ∈ sorted) : x ∈ items := h.perm.mem_iff.1 hx
  exact Call.eq_of_ascending ranked (fun _ => mem) (h.perm.trans h'.perm.symm) h.ascending
    h'.ascending fun a ha => (h.stable a (mem ha)).trans (h'.stable a (mem ha)).symm

theorem StablySorted.atMost_of_head? (ranked : Ranked items) (h : StablySorted items sorted)
    (first : sorted.head? = some x) (hy : y ∈ items) : AtMost x y := by
  obtain ⟨rest, rfl⟩ := List.head?_eq_some_iff.1 first
  have hx : x ∈ items := h.perm.mem_iff.1 List.mem_cons_self
  rcases List.mem_cons.1 (h.perm.mem_iff.2 hy) with rfl | hy
  · exact atMost_self (ranked.comparable y hx y hx)
  · exact (List.pairwise_cons.1 h.ascending).1 y hy

theorem StablySorted.atMost_of_getLast? (ranked : Ranked items) (h : StablySorted items sorted)
    (last : sorted.getLast? = some x) (hy : y ∈ items) : AtMost y x := by
  obtain ⟨front, rfl⟩ := List.getLast?_eq_some_iff.1 last
  have hx : x ∈ items := h.perm.mem_iff.1 (by simp)
  rcases List.mem_append.1 (h.perm.mem_iff.2 hy) with hy | hy
  · exact (List.pairwise_append.1 h.ascending).2.2 y hy x List.mem_cons_self
  · obtain rfl := List.mem_singleton.1 hy
    exact atMost_self (ranked.comparable y hx y hx)

theorem Ranked.not_mixed (ranked : Ranked items) : ¬ Mixed items := by
  cases items with
  | nil => exact not_mixed_nil
  | cons x rest =>
      exact not_mixed_cons.2 fun y hy =>
        ranked.comparable x List.mem_cons_self y (List.mem_cons_of_mem x hy)

end Json

/-- The functions `min` and `max` fail just on the lists of two items or more that are neither all
numbers nor all strings, and so does `sort`, except that with more than twenty items on which the
comparison is not transitive it is left open what it gives. On strings, on integers, and on numbers
whose integers have 53 bits at most, sorting gives the one ascending order of the items in which
equal ones come as in the input; the least item compares as equal to its first and the greatest to
its last one. -/
theorem Builtin.sort_min_max_exact (c : Call) :
    (∀ f ∈ [Builtin.min, .max], SucceedsIff (¬ Json.Mixed c.input.items) (f.run c)) ∧
      (Json.Mixed c.input.items → ∃ m, sort.run c = .mismatch m) ∧
      (¬ Json.Mixed c.input.items →
        (Call.isSortable c.input.items →
          ∃ sorted, sort.run c = .ok (.many sorted) ∧ sorted.Perm c.input.items) ∧
        (¬ Call.isSortable c.input.items → sort.run c = .error (.disorder c.input.items)) ∧
        ((∀ n, .number n ∈ c.input.items → n.Admitted) →
          (Call.isSortable c.input.items ↔ c.input.items.length ≤ 20 ∨
            ∀ x ∈ c.input.items, ∀ y ∈ c.input.items, ∀ z ∈ c.input.items,
              AtMost x y → AtMost y z → AtMost x z))) ∧
      (c.input.items ≠ [] → Json.Rankable c.input.items →
        ∃ sorted first last least greatest,
          sort.run c = .ok (.many sorted) ∧ min.run c = .ok (.single least) ∧
          max.run c = .ok (.single greatest) ∧
          Json.StablySorted c.input.items sorted ∧
          (∀ other, Json.StablySorted c.input.items other → other = sorted) ∧
          sorted.head? = some first ∧ sorted.getLast? = some last ∧
          least ∈ c.input.items ∧ compareOrdered least first = some .eq ∧
          greatest ∈ c.input.items ∧ compareOrdered greatest last = some .eq) := by
  refine ⟨fun f hf => ?_, Call.sort_of_mixed c, fun alike => ⟨fun settled => ?_, fun open_ => ?_,
    fun admitted => Call.isSortable_iff admitted alike⟩, fun notEmpty rankable => ?_⟩
  · simp only [List.mem_cons, List.not_mem_nil, or_false] at hf
    rcases hf with rfl | rfl
    · exact c.extreme_succeedsIff (· == .gt)
    · exact c.extreme_succeedsIff (· == .lt)
  · exact ⟨_, (Call.sort_of_not_mixed c alike).trans (if_pos settled), Call.sorted_perm _⟩
  · exact (Call.sort_of_not_mixed c alike).trans (if_neg open_)
  · have ranked := rankable.ranked
    have stable := Call.sorted_stablySorted ranked
    have settled : Call.isSortable c.input.items := by
      simp [Call.isSortable, rankable.isCoherent]
    have sorts : c.sort = .ok (.many (Call.sorted c.input.items)) :=
      (Call.sort_of_not_mixed c ranked.not_mixed).trans (if_pos settled)
    obtain ⟨least, hl, isLeast, below⟩ :=
      Call.extreme_best Call.prefers_least ranked ranked.trans notEmpty
    obtain ⟨greatest, hg, isGreatest, above⟩ :=
      Call.extreme_best Call.prefers_greatest ranked
        (fun x hx y hy z hz hxy hyz => ranked.trans z hz y hy x hx hyz hxy) notEmpty
    have sortedNotEmpty : Call.sorted c.input.items ≠ [] := fun empty =>
      notEmpty (List.nil_perm.1 (empty ▸ stable.perm))
    have hf := List.head?_eq_some_head sortedNotEmpty
    have ht := List.getLast?_eq_some_getLast sortedNotEmpty
    have first := stable.perm.mem_iff.1 (List.mem_of_head? hf)
    have last := stable.perm.mem_iff.1 (List.mem_of_getLast? ht)
    refine ⟨_, _, _, least, greatest, sorts, isLeast, isGreatest, stable,
      fun other h => h.unique ranked stable, hf, ht, hl, ?_, hg, ?_⟩
    · exact (below _ first).antisymm (stable.atMost_of_head? ranked hf hl)
    · exact (stable.atMost_of_getLast? ranked ht hg).antisymm (above _ last)

/-- The negative float next to zero, and two zeros that are equal: sorting ends with the second of
these, and the greatest item is the first. -/
theorem Builtin.sort_min_max_exact_zeros :
    let tiny : Json := .number (.float ⟨true, 1, 0, by decide, by decide, .inl rfl⟩)
    let zero : Json := .number (.int 0)
    let negative : Json := .number (.float Binary64.zero.neg)
    let c : Call := ⟨"sort", [], .single (.array [zero, tiny, negative])⟩
    let mixed : Call := ⟨"sort", [], .many [zero, .string "0"]⟩
    c.input.items ≠ [] ∧ Json.Rankable c.input.items ∧
      sort.run c = .ok (.many [tiny, zero, negative]) ∧ min.run c = .ok (.single tiny) ∧
      max.run c = .ok (.single zero) ∧ compareOrdered zero negative = some .eq ∧
      Json.Mixed mixed.input.items ∧ (∃ m, sort.run mixed = .mismatch m) ∧
      (∃ m, min.run mixed = .mismatch m) ∧ ∃ m, max.run mixed = .mismatch m := by
  intro tiny zero negative c mixed
  have small : ∀ x ∈ [zero, tiny, negative], ∃ n, Json.Small n ∧ x = .number n := by
    have float (f : Binary64) : Json.Small (.float f) := fun i h => nomatch h
    have int : Json.Small (.int 0) := by
      rintro _ ⟨⟩
      decide
    simp only [List.forall_mem_cons]
    exact ⟨⟨_, int, rfl⟩, ⟨_, float _, rfl⟩, ⟨_, float _, rfl⟩, nofun⟩
  have notEmpty : c.input.items ≠ [] := nofun
  have isMixed : Json.Mixed mixed.input.items := by
    refine ⟨le_refl 2, ?_⟩
    rintro (all | all)
    · exact nomatch all (.string "0") (List.mem_cons_of_mem zero List.mem_cons_self)
    · exact nomatch all zero List.mem_cons_self
  have sorts : sort.run c = .ok (.many [tiny, zero, negative]) := rfl
  have isGreatest : max.run c = .ok (.single zero) := rfl
  obtain ⟨fails, rejects, -⟩ := sort_min_max_exact mixed
  obtain ⟨sorted, _, last, _, greatest, hs, -, hg, -, -, -, ht, -, -, -, ends⟩ :=
    (sort_min_max_exact c).2.2.2 notEmpty (.numbers small)
  have sameOrder : [tiny, zero, negative] = sorted :=
    congrArg ValueSet.values (Except.ok.inj (sorts.symm.trans hs))
  have sameItem : [zero] = [greatest] :=
    congrArg ValueSet.values (Except.ok.inj (isGreatest.symm.trans hg))
  rw [← sameOrder] at ht
  obtain rfl : negative = last := Option.some.inj ht
  have equal : compareOrdered zero negative = some .eq := by
    rw [(List.cons.inj sameItem).1]
    exact ends
  exact ⟨notEmpty, .numbers small, sorts, rfl, isGreatest, equal, isMixed,
    rejects isMixed,
    (fails .min (by simp)).mismatch (not_not.2 isMixed),
    (fails .max (by simp)).mismatch (not_not.2 isMixed)⟩

/-- The float `2 ^ 53` equals that integer and the next one. With it among enough of these integers
the extremes are found, but nothing is settled about sorting. -/
theorem Builtin.sort_without_order :
    let two : Json := .number (.int 9007199254740994)
    let one : Json := .number (.int 9007199254740993)
    let zero : Json := .number (.int 9007199254740992)
    let float : Json := .number (.float ⟨false, 1 <<< 52, 1075, by decide, by decide, by decide⟩)
    let items := two :: (List.replicate 8 one ++ float :: List.replicate 11 zero)
    let c : Call := ⟨"sort", [], .single (.array items)⟩
    ¬ Json.Mixed c.input.items ∧ (∃ least, min.run c = .ok least) ∧
      (∃ greatest, max.run c = .ok greatest) ∧ sort.run c = .error (.disorder items) := by
  intro two one zero float items c
  have numbers : ∀ x ∈ items, x.kind = .number := by
    simp [items, two, one, zero, float, Json.kind]
  have alike : ¬ Json.Mixed c.input.items := fun mixed => mixed.2 (.inl numbers)
  have open_ : ¬ Call.isSortable c.input.items := by decide +kernel
  exact ⟨alike, (c.extreme_succeedsIff (· == .gt)).ok alike,
    (c.extreme_succeedsIff (· == .lt)).ok alike, (Call.sort_of_not_mixed c alike).trans (if_neg open_)⟩

end PathQuery
