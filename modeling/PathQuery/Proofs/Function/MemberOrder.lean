import PathQuery.Function.Registry
import PathQuery.Proofs.Lookup.MemberOrder

/-!
Two computations on values that differ in the order of members. They end alike when both halt for
the same reason or both give results that differ in that order. Every function keeps this but those
that list members, `keys` and `values`.
-/

namespace PathQuery

/-- Both halt for the same reason, or both give results that are related. -/
inductive Outcome.Alike {α β : Type} (R : α → β → Prop) : Outcome α → Outcome β → Prop
  | ok {a : α} {b : β} : R a b → Alike R (.ok a) (.ok b)
  | error (h : Halt) : Alike R (.error h) (.error h)

namespace Outcome.Alike

variable {α β γ δ : Type} {R : α → β → Prop} {S : γ → δ → Prop}

theorem bind {x : Outcome α} {y : Outcome β} {f : α → Outcome γ} {g : β → Outcome δ}
    (h : Alike R x y) (hf : ∀ a b, R a b → Alike S (f a) (g b)) :
    Alike S (x >>= f) (y >>= g) := by
  cases h with
  | ok hab => exact hf _ _ hab
  | error h => exact .error h

theorem mapM {f : α → Outcome γ} {g : β → Outcome δ} (hf : ∀ a b, R a b → Alike S (f a) (g b))
    {xs : List α} {ys : List β} (h : List.Forall₂ R xs ys) :
    Alike (List.Forall₂ S) (xs.mapM f) (ys.mapM g) := by
  induction h with
  | nil => exact .ok .nil
  | cons hab _ ih =>
      rw [List.mapM_cons, List.mapM_cons]
      exact (hf _ _ hab).bind fun _ _ hc => ih.bind fun _ _ hcs => .ok (.cons hc hcs)

theorem filterM {f : α → Outcome Bool} {g : β → Outcome Bool}
    (hf : ∀ a b, R a b → Alike Eq (f a) (g b)) {xs : List α} {ys : List β}
    (h : List.Forall₂ R xs ys) : Alike (List.Forall₂ R) (xs.filterM f) (ys.filterM g) := by
  have kept {us : List α} {vs : List β} (hk : List.Forall₂ R us vs) :
      Alike (List.Forall₂ R) (xs.filterAuxM f us) (ys.filterAuxM g vs) := by
    induction h generalizing us vs with
    | nil => exact .ok hk
    | cons hab _ ih =>
        refine (hf _ _ hab).bind fun b _ hb => ?_
        subst hb
        cases b with
        | true => exact ih (.cons hab hk)
        | false => exact ih hk
  exact (kept .nil).bind fun _ _ hk => .ok (List.rel_reverse hk)

theorem foldlM {f : γ → α → Outcome γ} {g : δ → β → Outcome δ}
    (hf : ∀ c d a b, S c d → R a b → Alike S (f c a) (g d b)) {xs : List α} {ys : List β}
    (h : List.Forall₂ R xs ys) {c : γ} {d : δ} (hc : S c d) :
    Alike S (xs.foldlM f c) (ys.foldlM g d) := by
  induction h generalizing c d with
  | nil => exact .ok hc
  | cons hab _ ih =>
      rw [List.foldlM_cons, List.foldlM_cons]
      exact (hf _ _ _ _ hc hab).bind fun _ _ hc => ih hc

end Outcome.Alike

open Outcome (Alike)
open Json (Reordered)

/-! ### Sets of values -/

abbrev Json.ReorderedAll (xs ys : List Json) : Prop :=
  List.Forall₂ Json.Reordered xs ys

theorem Json.ReorderedAll.isEmpty {xs ys : List Json} (h : ReorderedAll xs ys) :
    xs.isEmpty = ys.isEmpty := by
  cases h <;> rfl

open Json (ReorderedAll)

structure ValueSet.Reordered (a b : ValueSet) : Prop where
  values : ReorderedAll a.values b.values
  definite : a.definite = b.definite

theorem ValueSet.items_cons_cons (x y : Json) (rest : List Json) (d : Bool) :
    (ValueSet.mk (x :: y :: rest) d).items = x :: y :: rest := by
  cases x <;> rfl

namespace ValueSet.Reordered

variable {a b : ValueSet}

theorem single {x y : Json} (h : Json.Reordered x y) :
    (ValueSet.single x).Reordered (ValueSet.single y) :=
  ⟨.cons h .nil, rfl⟩

theorem many {xs ys : List Json} (h : ReorderedAll xs ys) :
    (ValueSet.many xs).Reordered (ValueSet.many ys) :=
  ⟨h, rfl⟩

theorem optional {x y : Option Json} (h : Option.Rel Json.Reordered x y) :
    (ValueSet.optional x).Reordered (ValueSet.optional y) := by
  cases h with
  | none => exact ⟨.nil, rfl⟩
  | some h => exact single h

theorem items (h : a.Reordered b) : ReorderedAll a.items b.items := by
  obtain ⟨xs, d⟩ := a
  obtain ⟨ys, d'⟩ := b
  obtain ⟨hv, hd⟩ := h
  dsimp only at hv hd
  subst hd
  cases hv with
  | nil => exact .nil
  | @cons x y xs ys hx hrest =>
      cases hrest with
      | nil =>
          -- an array by itself is opened where the set is definite
          have whole := hx
          cases hx with
          | array hxs =>
              cases d with
              | true => exact hxs
              | false => exact .cons whole .nil
          | _ => exact .cons whole .nil
      | cons hy h =>
          rw [items_cons_cons, items_cons_cons]
          exact .cons hx (.cons hy h)

end ValueSet.Reordered

/-! ### Functions -/

/-- Arguments written alike, that end alike on sets that differ in the order of members. -/
structure Argument.Reordered (a b : Argument) : Prop where
  node : a.node = b.node
  evaluate : ∀ set set', set.Reordered set' →
    Alike ValueSet.Reordered (a.evaluate set) (b.evaluate set')
  holds : ∀ set set', set.Reordered set' → Alike Eq (a.holds set) (b.holds set')
  operand : ∀ set set', set.Reordered set' →
    Alike (Option.Rel Json.Reordered) (a.operand set) (b.operand set')

structure Call.Reordered (c d : Call) : Prop where
  name : c.name = d.name
  args : List.Forall₂ Argument.Reordered c.args d.args
  input : c.input.Reordered d.input

section

variable {xs ys : List Json}

theorem unordered?_reordered (h : ReorderedAll xs ys) :
    Option.Rel (fun p q => Json.Reordered p.1 q.1 ∧ Json.Reordered p.2 q.2)
      (Call.unordered? xs) (Call.unordered? ys) := by
  induction h with
  | nil => exact .none
  | cons hx hrest ih =>
      cases hrest with
      | nil => exact .none
      | cons hy _ =>
          rw [Call.unordered?, Call.unordered?, Json.compareOrdered_reordered hx hy]
          split
          · exact .some ⟨hx, hy⟩
          · exact ih

/-- What has an order is a number or a string, and has no members. -/
theorem Json.Reordered.eq_of_ordered {x x' y : Json} (h : Json.Reordered x x')
    (ordered : (Json.compareOrdered x y).isSome ∨ (Json.compareOrdered y x).isSome) : x = x' := by
  cases h with
  | number | string => rfl
  | _ => rcases ordered with h | h <;> cases y <;> cases h

/-- Neighbours that have an order are equal to what they correspond to. -/
theorem eq_of_unordered?_eq_none (h : ReorderedAll xs ys) (ordered : Call.unordered? xs = none)
    (two : 2 ≤ xs.length) : xs = ys := by
  induction h with
  | nil => rfl
  | @cons x x' xs ys hx hrest ih =>
      obtain ⟨y, rest, rfl⟩ := List.exists_cons_of_length_pos (Nat.le_of_succ_le_succ two)
      rw [Call.unordered?] at ordered
      split at ordered
      · cases ordered
      · rename_i some
        rw [Option.isNone_iff_eq_none, ← ne_eq, Option.ne_none_iff_isSome] at some
        obtain rfl := hx.eq_of_ordered (.inl some)
        cases hrest with
        | cons hy hrest' =>
            obtain rfl := hy.eq_of_ordered (.inr some)
            cases rest with
            | nil =>
                cases hrest'
                rfl
            | cons z rest => rw [ih ordered (by simp)]

theorem insertDescending_reordered {x y : Json} (hxy : Json.Reordered x y)
    (h : ReorderedAll xs ys) :
    ReorderedAll (Call.insertDescending x xs) (Call.insertDescending y ys) := by
  induction h with
  | nil => exact .cons hxy .nil
  | cons hz hrest ih =>
      rw [Call.insertDescending, Call.insertDescending, Json.compareOrdered_reordered hxy hz]
      split
      · exact .cons hz ih
      · exact .cons hxy (.cons hz hrest)

theorem sorted_reordered (h : ReorderedAll xs ys) :
    ReorderedAll (Call.sorted xs) (Call.sorted ys) := by
  refine List.rel_reverse (List.rel_foldl (fun done done' hd x y hxy => ?_) .nil h)
  exact insertDescending_reordered hxy hd

theorem any_looseEq_reordered (h : ReorderedAll xs ys) {x y : Json} (hxy : Json.Reordered x y) :
    (xs.any fun item => Json.looseEq item x) = ys.any fun item => Json.looseEq item y := by
  induction h with
  | nil => rfl
  | cons hz _ ih => rw [List.any_cons, List.any_cons, Json.looseEq_reordered _ hz hxy, ih]

theorem distinct_reordered (h : ReorderedAll xs ys) :
    ReorderedAll (Call.distinct xs) (Call.distinct ys) := by
  refine List.rel_foldl (fun seen seen' hs x y hxy => ?_) .nil h
  rw [any_looseEq_reordered hs hxy]
  split
  · exact hs
  · exact List.rel_append hs (.cons hxy .nil)

theorem head?_reordered (h : ReorderedAll xs ys) :
    Option.Rel Json.Reordered xs.head? ys.head? := by
  cases h with
  | nil => exact .none
  | cons hx _ => exact .some hx

end

namespace Call.Reordered

variable {c d : Call}

theorem argument (h : c.Reordered d) : Alike Argument.Reordered c.argument d.argument := by
  unfold Call.argument
  rw [h.name]
  have args := h.args
  generalize c.args = xs, d.args = ys at args
  cases args with
  | nil => exact .error _
  | cons ha _ => exact .ok ha

theorem scalarArgument (h : c.Reordered d) :
    Alike Json.Reordered c.scalarArgument d.scalarArgument := by
  refine h.argument.bind fun a b hab => ?_
  refine (hab.operand _ _ h.input).bind fun found found' hf => ?_
  cases hf with
  | some hv => exact .ok hv
  | none =>
      rw [h.name, hab.node]
      exact .error _

theorem numbers (h : c.Reordered d) : Alike (List.Forall₂ Eq) c.numbers d.numbers := by
  refine Alike.mapM (fun x y hxy => ?_) h.input.items
  cases hxy with
  | number n => exact .ok rfl
  | null | bool _ | string _ | array _ | object _ _ _ =>
      rw [h.name]
      exact .error _

/-- Numbers are the same in both, so what is computed from them is too. -/
theorem ofNumbers (h : c.Reordered d) (f : List Number → Json) :
    Alike ValueSet.Reordered (do return .single (f (← c.numbers)))
      (do return .single (f (← d.numbers))) := by
  refine h.numbers.bind fun ns ns' hn => ?_
  obtain rfl := List.forall₂_eq_eq_eq ▸ hn
  exact .ok (.single (.refl _))

theorem length (h : c.Reordered d) : Alike ValueSet.Reordered c.length d.length := by
  unfold Call.length
  rw [h.input.definite]
  have values := h.input.values
  generalize c.input.values = xs, d.input.values = ys, d.input.definite = definite at values
  cases values with
  | nil => exact .ok (.single (.number _))
  | cons hx hrest =>
      cases hrest with
      | cons _ hrest =>
          simp only [List.length_cons, hrest.length_eq]
          exact .ok (.single (.number _))
      | nil =>
          cases definite with
          | false => exact .ok (.single (.number _))
          | true =>
              cases hx with
              | array hxs =>
                  simp only [if_true, hxs.length_eq]
                  exact .ok (.single (.number _))
              | object names values shuffled =>
                  -- an object has as many members in any order
                  have same := (Json.Reordered.object names values shuffled).names.length_eq
                  rw [List.length_map, List.length_map] at same
                  simp only [if_true, same]
                  exact .ok (.single (.number _))
              | null | string _ => exact .ok (.single (.number _))
              | bool _ | number _ => exact .error _

theorem map (h : c.Reordered d) : Alike ValueSet.Reordered c.map d.map := by
  have results : Alike (List.Forall₂ ValueSet.Reordered)
      (c.input.items.mapM fun item => do (← c.argument).evaluate (.single item))
      (d.input.items.mapM fun item => do (← d.argument).evaluate (.single item)) := by
    refine Alike.mapM (fun x y hxy => ?_) h.input.items
    exact h.argument.bind fun _ _ hab => hab.evaluate _ _ (.single hxy)
  exact results.bind fun _ _ hs => .ok (.many (List.rel_flatMap hs fun _ _ hset => hset.values))

theorem filter (h : c.Reordered d) : Alike ValueSet.Reordered c.filter d.filter := by
  refine h.argument.bind fun a b hab => ?_
  rw [hab.node]
  split
  · refine (Alike.filterM (fun x y hxy => ?_) h.input.items).bind fun _ _ hk => .ok (.many hk)
    exact hab.holds _ _ (.single hxy)
  · exact .error _

theorem extreme (h : c.Reordered d) (better : Ordering → Bool) :
    Alike ValueSet.Reordered (c.extreme better) (d.extreme better) := by
  unfold Call.extreme
  rw [h.name]
  have items := h.input.items
  generalize c.input.items = xs, d.input.items = ys at items
  cases items with
  | nil => exact .ok (.single .null)
  | cons hx hrest =>
      refine (Alike.foldlM (fun best best' x y hb hxy => ?_) hrest hx).bind
        fun _ _ hb => .ok (.single hb)
      rw [Json.compareOrdered_reordered hb hxy, hb.kind, hxy.kind]
      split
      · split
        · exact .ok hxy
        · exact .ok hb
      · exact .error _

theorem sort (h : c.Reordered d) : Alike ValueSet.Reordered c.sort d.sort := by
  unfold Call.sort
  have items := h.input.items
  generalize c.input.items = xs, d.input.items = ys at items
  have pair := unordered?_reordered items
  generalize hu : Call.unordered? xs = u, Call.unordered? ys = v at pair
  cases pair with
  | none =>
      rcases Nat.lt_or_ge xs.length 2 with few | two
      · have below : xs.length ≤ Call.insertionLimit := by
          rw [Call.insertionLimit]
          omega
        have below' : ys.length ≤ Call.insertionLimit := items.length_eq ▸ below
        rw [Call.isSortable_of_length below, Call.isSortable_of_length below']
        exact .ok (.many (sorted_reordered items))
      · obtain rfl := eq_of_unordered?_eq_none items hu two
        dsimp only
        split
        · exact .ok (.many (sorted_reordered items))
        · exact .error _
  | some hp =>
      dsimp only
      rw [hp.1.kind, hp.2.kind]
      exact .error _

theorem unique (h : c.Reordered d) : Alike ValueSet.Reordered c.unique d.unique :=
  .ok (.many (distinct_reordered h.input.items))

theorem flatten (h : c.Reordered d) : Alike ValueSet.Reordered c.flatten d.flatten := by
  refine .ok (.many (List.rel_flatMap h.input.items fun x y hxy => ?_))
  have whole := hxy
  cases hxy with
  | array hxs => exact hxs
  | _ => exact .cons whole .nil

theorem typeNames (h : c.Reordered d) : Alike ValueSet.Reordered c.typeNames d.typeNames := by
  refine .ok ⟨?_, h.input.definite⟩
  refine List.rel_map (fun x y hxy => ?_) h.input.values
  rw [hxy.kind]
  exact .refl _

theorem perItem (h : c.Reordered d) {xs ys : List Json} (hv : ReorderedAll xs ys) :
    (c.perItem xs).Reordered (d.perItem ys) := by
  refine ⟨hv, ?_⟩
  rw [Call.perItem, Call.perItem, hv.length_eq, h.input.definite]

theorem matchesRegex (h : c.Reordered d) :
    Alike ValueSet.Reordered c.matchesRegex d.matchesRegex := by
  refine h.scalarArgument.bind fun _ _ hp => ?_
  cases hp with
  | string pattern =>
      dsimp only
      cases Regex.parse? pattern with
      | none => exact .error _
      | some re =>
          refine .ok (h.perItem (List.rel_map (fun x y hxy => ?_) h.input.items))
          cases hxy <;> exact .refl _
  | null | bool _ | number _ | array _ | object _ _ _ => exact .error _

theorem contains (h : c.Reordered d) : Alike ValueSet.Reordered c.contains d.contains := by
  refine h.scalarArgument.bind fun needle needle' hn => ?_
  rw [any_looseEq_reordered h.input.items hn, h.input.definite]
  have values := h.input.values
  generalize c.input.values = xs, d.input.values = ys at values
  -- a text in a text is the only search that is not for a member
  cases values with
  | nil => exact .ok (.single (.bool _))
  | cons hx hrest =>
      cases hx with
      | string text =>
          cases hrest with
          | cons _ _ => exact .ok (.single (.bool _))
          | nil => cases hn <;> exact .ok (.single (.bool _))
      | _ => exact .ok (.single (.bool _))

end Call.Reordered

/-- The functions that list the members of objects, in their order. -/
def Builtin.listsMembers : Builtin → Bool
  | keys | values => true
  | _ => false

theorem Builtin.run_reordered (b : Builtin) (hb : b.listsMembers = false) {c d : Call}
    (h : c.Reordered d) : Alike ValueSet.Reordered (b.run c) (b.run d) := by
  cases b with
  | keys | values => cases hb
  | length => exact h.length
  | map => exact h.map
  | filter => exact h.filter
  | sum => exact h.ofNumbers _
  | avg => exact h.ofNumbers _
  | min | max => exact h.extreme _
  | first => exact .ok (.optional (head?_reordered h.input.items))
  | last =>
      refine .ok (.optional ?_)
      rw [List.getLast?_eq_head?_reverse, List.getLast?_eq_head?_reverse]
      exact head?_reordered (List.rel_reverse h.input.items)
  | reverse => exact .ok (.many (List.rel_reverse h.input.items))
  | sort => exact h.sort
  | unique => exact h.unique
  | flatten => exact h.flatten
  | typeNames => exact h.typeNames
  | matchesRegex => exact h.matchesRegex
  | contains => exact h.contains

/-- Among the standard functions it is those that are called so. -/
theorem Registry.standard_listsMembers {name : String} {e : FunctionEntry}
    (h : Registry.standard.find? name = some e) (hl : e.builtin.listsMembers = true) :
    name = "keys" ∨ name = "values" := by
  have called : ∀ e ∈ Registry.standard.entries, e.builtin.listsMembers = true →
      e.name = "keys" ∨ e.name = "values" := by
    decide
  have named : e.name = name := by simpa using List.find?_some h
  rw [← named]
  exact called e (List.mem_of_find?_eq_some h) hl

theorem Registry.invoke_reordered {c d : Call} (hn : c.name ≠ "keys" ∧ c.name ≠ "values")
    (h : c.Reordered d) :
    Alike ValueSet.Reordered (Registry.standard.invoke c) (Registry.standard.invoke d) := by
  unfold Registry.invoke
  rw [← h.name, ← h.args.length_eq]
  cases he : Registry.standard.find? c.name with
  | none => exact .error _
  | some e =>
      dsimp only
      split
      · exact .error _
      · refine Builtin.run_reordered e.builtin ?_ h
        by_contra hl
        rcases Registry.standard_listsMembers he (by simpa using hl) with hk | hv
        · exact hn.1 hk
        · exact hn.2 hv

end PathQuery
