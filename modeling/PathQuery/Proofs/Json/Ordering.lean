import Mathlib.Data.List.Lex
import Mathlib.Data.String.Basic
import PathQuery.Proofs.Json.Equality

/-!
The order of values. Two numbers and two strings are ordered and no other pair is. On values that
are ordered the comparison has the laws of a preorder, transitivity apart: it finds a value equal to
itself and is reversed when the values are swapped, and it finds the same values equal as loose
equality does. It is transitive on strings, on integers, and on numbers whose integers have 53 bits
at most.
-/

namespace PathQuery.Json

/-- Two numbers or two strings. -/
def Comparable (x y : Json) : Prop :=
  x.kind = .number ∧ y.kind = .number ∨ x.kind = .string ∧ y.kind = .string

variable {x y z : Json}

theorem Comparable.symm (h : Comparable x y) : Comparable y x :=
  h.imp And.symm And.symm

theorem Comparable.trans (h : Comparable x y) (h' : Comparable y z) : Comparable x z := by
  rcases h with ⟨hx, hy⟩ | ⟨hx, hy⟩ <;> rcases h' with ⟨hy', hz⟩ | ⟨hy', hz⟩
  · exact .inl ⟨hx, hz⟩
  · cases hy.symm.trans hy'
  · cases hy.symm.trans hy'
  · exact .inr ⟨hx, hz⟩

theorem Comparable.kind_eq (h : Comparable x y) : x.kind = y.kind := by
  rcases h with ⟨hx, hy⟩ | ⟨hx, hy⟩ <;> exact hx.trans hy.symm

theorem Comparable.congr (h : Comparable x y) : Comparable x z ↔ Comparable y z :=
  ⟨h.symm.trans, h.trans⟩

/-! ### The comparison of two values -/

theorem isSome_compareOrdered : (compareOrdered x y).isSome ↔ Comparable x y := by
  cases x <;> cases y <;> simp [compareOrdered, Comparable, kind]

theorem compareOrdered_eq_none : compareOrdered x y = none ↔ ¬ Comparable x y := by
  rw [← isSome_compareOrdered, Option.not_isSome_iff_eq_none]

theorem Comparable.exists_ordering (h : Comparable x y) : ∃ o, compareOrdered x y = some o :=
  Option.isSome_iff_exists.1 (isSome_compareOrdered.2 h)

theorem comparable_of_eq_some {o : Ordering} (h : compareOrdered x y = some o) :
    Comparable x y :=
  isSome_compareOrdered.1 (Option.isSome_of_eq_some h)

theorem compareOrdered_strings (s t : String) : ∃ o : Ordering,
    compareOrdered (.string s) (.string t) = some o ∧ o.Compares s.toList t.toList := by
  rw [compareOrdered, compareOfLessAndEq]
  rcases lt_trichotomy s.toList t.toList with h | h | h
  · exact ⟨.lt, by rw [if_pos h], h⟩
  · exact ⟨.eq, by rw [if_neg h.not_lt, if_pos h], h⟩
  · exact ⟨.gt, by rw [if_neg h.not_gt, if_neg h.ne'], h⟩

theorem compareOrdered_swap (x y : Json) :
    (compareOrdered x y).map Ordering.swap = compareOrdered y x := by
  cases x with
  | number m =>
      cases y with
      | number n => exact congrArg some (Number.compare_swap m n)
      | _ => rfl
  | string s =>
      cases y with
      | string t =>
          obtain ⟨o, ho, hst⟩ := compareOrdered_strings s t
          obtain ⟨o', ho', hts⟩ := compareOrdered_strings t s
          rw [ho, ho', Option.map_some, (Ordering.compares_swap.2 hst).inj hts]
      | _ => rfl
  | _ => cases y <;> rfl

theorem compareOrdered_of_swap {o : Ordering} (h : compareOrdered x y = some o) :
    compareOrdered y x = some o.swap := by
  rw [← compareOrdered_swap, h, Option.map_some]

theorem compareOrdered_self (h : Comparable x x) : compareOrdered x x = some .eq := by
  cases x with
  | number n => exact congrArg some (Number.compare_self n)
  | string s =>
      obtain ⟨o, ho, hs⟩ := compareOrdered_strings s s
      rw [ho, hs.eq_eq.2 rfl]
  | _ => rcases h with ⟨h, -⟩ | ⟨h, -⟩ <;> cases h

/-- Values that are ordered are loosely equal just when neither is less. -/
theorem looseEq_of_compareOrdered {o : Ordering} (h : compareOrdered x y = some o) :
    looseEq x y = (o == .eq) := by
  cases x with
  | number m =>
      cases y with
      | number n =>
          obtain rfl := Option.some.inj h
          rw [looseEq]
      | _ => cases h
  | string s =>
      cases y with
      | string t =>
          obtain ⟨o', ho, hst⟩ := compareOrdered_strings s t
          obtain rfl := Option.some.inj (ho.symm.trans h)
          rw [looseEq, Bool.eq_iff_iff, beq_iff_eq, beq_iff_eq, hst.eq_eq, String.toList_inj]
      | _ => cases h
  | _ => cases y <;> cases h

/-! ### Values that are not behind others -/

/-- The values are ordered, and the first is not behind the second. -/
def AtMost (x y : Json) : Prop :=
  ∃ o, compareOrdered x y = some o ∧ o ≠ .gt

theorem AtMost.comparable (h : AtMost x y) : Comparable x y :=
  have ⟨_, ho, _⟩ := h
  comparable_of_eq_some ho

theorem atMost_self (h : Comparable x x) : AtMost x x :=
  ⟨.eq, compareOrdered_self h, nofun⟩

/-- What is not less is at least as great. -/
theorem atMost_of_ne_lt {o : Ordering} (h : compareOrdered x y = some o) (down : o ≠ .lt) :
    AtMost y x :=
  ⟨o.swap, compareOrdered_of_swap h, fun same => down (by rw [← o.swap_swap, same]; rfl)⟩

theorem AtMost.antisymm (h : AtMost x y) (h' : AtMost y x) : compareOrdered x y = some .eq := by
  obtain ⟨o, ho, up⟩ := h
  obtain ⟨o', ho', up'⟩ := h'
  rw [compareOrdered_of_swap ho] at ho'
  obtain rfl := Option.some.inj ho'
  cases o with
  | lt => exact absurd rfl up'
  | eq => exact ho
  | gt => exact absurd rfl up

theorem atMost_of_eq (h : compareOrdered x y = some .eq) : AtMost x y ∧ AtMost y x :=
  ⟨⟨_, h, nofun⟩, atMost_of_ne_lt h nofun⟩

/-- The comparison is a total preorder on these values. -/
structure Ranked (items : List Json) : Prop where
  comparable : ∀ x ∈ items, ∀ y ∈ items, Comparable x y
  trans : ∀ x ∈ items, ∀ y ∈ items, ∀ z ∈ items, AtMost x y → AtMost y z → AtMost x z

variable {items : List Json}

theorem Ranked.eq_trans (h : Ranked items) (hx : x ∈ items) (hy : y ∈ items) (hz : z ∈ items)
    (hxy : compareOrdered x y = some .eq) (hyz : compareOrdered y z = some .eq) :
    compareOrdered x z = some .eq := by
  have up := h.trans x hx y hy z hz (atMost_of_eq hxy).1 (atMost_of_eq hyz).1
  have down := h.trans z hz y hy x hx (atMost_of_eq hyz).2 (atMost_of_eq hxy).2
  exact up.antisymm down

theorem ranked_of_strings (h : ∀ x ∈ items, x.kind = .string) : Ranked items where
  comparable x hx y hy := .inr ⟨h x hx, h y hy⟩
  trans x hx y hy z hz := by
    have text {w : Json} (hw : w.kind = .string) : ∃ s, w = .string s := by
      cases w with
      | string s => exact ⟨s, rfl⟩
      | _ => cases hw
    have atMost_iff (s t : String) : AtMost (.string s) (.string t) ↔ s.toList ≤ t.toList := by
      obtain ⟨o, ho, hst⟩ := compareOrdered_strings s t
      rw [AtMost, ho, ← hst.ne_gt]
      simp
    obtain ⟨s, rfl⟩ := text (h x hx)
    obtain ⟨t, rfl⟩ := text (h y hy)
    obtain ⟨u, rfl⟩ := text (h z hz)
    rw [atMost_iff, atMost_iff, atMost_iff]
    exact le_trans

/-- Numbers no float of which equals two of the integers. -/
theorem ranked_of_coherent {N : Number → Prop} (admitted : ∀ n, N n → n.Admitted)
    (coherent : Number.Coherent N) (h : ∀ x ∈ items, ∃ n, N n ∧ x = .number n) :
    Ranked items where
  comparable x hx y hy := by
    obtain ⟨m, -, rfl⟩ := h x hx
    obtain ⟨n, -, rfl⟩ := h y hy
    exact .inl ⟨rfl, rfl⟩
  trans x hx y hy z hz := by
    obtain ⟨l, hl, rfl⟩ := h x hx
    obtain ⟨m, hm, rfl⟩ := h y hy
    obtain ⟨n, hn, rfl⟩ := h z hz
    rintro ⟨_, ⟨⟩, hlm⟩ ⟨_, ⟨⟩, hmn⟩
    exact ⟨_, rfl, (Number.coherent_iff_trans admitted).1 coherent l m n hl hm hn hlm hmn⟩

/-! ### Whether the comparison is a preorder -/

theorem mem_integersEqual {f : Binary64} {n : Int} : n ∈ integersEqual f items ↔
    number (.int n) ∈ items ∧ (Number.int n).compare (.float f) = .eq := by
  simp only [integersEqual, List.mem_filterMap]
  constructor
  · rintro ⟨item, mem, found⟩
    split at found
    · split at found
      · rename_i equal
        cases found
        exact ⟨mem, equal⟩
      · cases found
    · cases found
  · rintro ⟨mem, equal⟩
    exact ⟨_, mem, if_pos equal⟩

theorem isCoherent_iff : isCoherent items ↔ Number.Coherent fun n => number n ∈ items := by
  rw [isCoherent, List.all_eq_true]
  constructor
  · intro all m n f hm hn hf hmf hnf
    have same := all _ hf
    simp only [List.all_eq_true] at same
    exact eq_of_beq (same m (mem_integersEqual.2 ⟨hm, hmf⟩) n (mem_integersEqual.2 ⟨hn, hnf⟩))
  · intro coherent item mem
    split
    · rename_i f
      simp only [List.all_eq_true, beq_iff_eq]
      intro m hm n hn
      rw [mem_integersEqual] at hm hn
      exact coherent m n f hm.1 hn.1 mem hm.2 hn.2
    · rfl

/-- Items that have an order are coherent just when the comparison is a total preorder on them. -/
theorem isCoherent_iff_ranked (admitted : ∀ n, number n ∈ items → n.Admitted)
    (comparable : ∀ x ∈ items, ∀ y ∈ items, Comparable x y) :
    isCoherent items ↔ Ranked items := by
  rw [isCoherent_iff]
  refine ⟨fun coherent => ?_, fun ranked => ?_⟩
  · by_cases text : ∀ x ∈ items, x.kind = .string
    · exact ranked_of_strings text
    · simp only [not_forall] at text
      obtain ⟨y, hy, other⟩ := text
      refine ranked_of_coherent admitted coherent fun x hx => ?_
      have hk : x.kind = .number :=
        (comparable x hx y hy).elim And.left fun h => absurd h.2 other
      match x with
      | number n => exact ⟨n, hx, rfl⟩
  · refine (Number.coherent_iff_trans admitted).2 fun x y z hx hy hz hxy hyz => ?_
    obtain ⟨o, ho, up⟩ := ranked.trans _ hx _ hy _ hz ⟨_, rfl, hxy⟩ ⟨_, rfl, hyz⟩
    cases ho
    exact up

theorem Small.admitted {n : Number} (h : Small n) : n.Admitted := by
  cases n with
  | int i =>
      have bound := h i rfl
      exact Number.admitted_int.2 (by omega)
  | float _ => trivial

/-- Strings, integers of 64 bits, or numbers whose integers have 53 bits at most. -/
inductive Rankable (items : List Json) : Prop
  | strings : (∀ x ∈ items, x.kind = .string) → Rankable items
  | integers : (∀ x ∈ items, ∃ i, (Number.int i).Admitted ∧ x = .number (.int i)) → Rankable items
  | numbers : (∀ x ∈ items, ∃ n, Small n ∧ x = .number n) → Rankable items

theorem Rankable.ranked (h : Rankable items) : Ranked items := by
  cases h with
  | strings h => exact ranked_of_strings h
  | integers h =>
      let N (n : Number) : Prop := n.Admitted ∧ ∃ i, n = .int i
      have coherent : Number.Coherent N := fun m n f _ _ hf => nomatch hf.2
      refine ranked_of_coherent (fun n hn => hn.1) coherent fun x hx => ?_
      obtain ⟨i, admitted, rfl⟩ := h x hx
      exact ⟨.int i, ⟨admitted, i, rfl⟩, rfl⟩
  | numbers h =>
      have coherent : Number.Coherent Small := Number.coherent_of_small fun i hi => hi i rfl
      exact ranked_of_coherent (fun n => Small.admitted) coherent h

theorem Rankable.admitted (h : Rankable items) {n : Number} (hn : number n ∈ items) :
    n.Admitted := by
  rcases h with h | h | h
  · exact nomatch h _ hn
  · obtain ⟨i, admitted, same⟩ := h _ hn
    cases same
    exact admitted
  · obtain ⟨m, small, same⟩ := h _ hn
    cases same
    exact small.admitted

theorem Rankable.isCoherent (h : Rankable items) : isCoherent items :=
  (isCoherent_iff_ranked (fun _ => h.admitted) h.ranked.comparable).2 h.ranked

end PathQuery.Json
