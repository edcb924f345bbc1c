import Mathlib
import PathQuery.Lookup.Element
import PathQuery.Proofs.Function.Distinct
import PathQuery.Proofs.Function.Sorting
import PathQuery.Proofs.Function.Yield

/-!
Values that functions take apart. A class of values is hereditary when it holds all scalars, the
parts of the arrays and objects in it, and these objects without some of their members. Functions
put nothing together: on values of such a class, and with arguments that keep to it, they give
values of the class.
-/

namespace PathQuery

/-- What the computation gives, if it gives anything, has the property. -/
def Outcome.Ensures {α : Type} (Q : α → Prop) : Outcome α → Prop
  | .ok a => Q a
  | .error _ => True

namespace Outcome.Ensures

variable {α β : Type} {Q : α → Prop} {R : β → Prop}

theorem ok {a : α} (h : Q a) : Ensures Q (.ok a) :=
  h

theorem error (h : Halt) : Ensures Q (.error h) :=
  True.intro

theorem of_ok {x : Outcome α} {a : α} (h : Ensures Q x) (hx : x = .ok a) : Q a := by
  rw [hx] at h
  exact h

theorem bind {x : Outcome α} {f : α → Outcome β} (hx : Ensures Q x)
    (hf : ∀ a, Q a → Ensures R (f a)) : Ensures R (x >>= f) := by
  cases x with
  | ok a => exact hf a hx
  | error h => exact True.intro

theorem trivial (x : Outcome α) : Ensures (fun _ => True) x := by
  cases x <;> exact True.intro

theorem mapM {f : α → Outcome β} {xs : List α} (hf : ∀ x ∈ xs, Ensures R (f x)) :
    Ensures (fun ys => ∀ y ∈ ys, R y) (xs.mapM f) := by
  induction xs with
  | nil => exact ok nofun
  | cons x xs ih =>
      rw [List.forall_mem_cons] at hf
      rw [List.mapM_cons]
      apply hf.1.bind
      intro y hy
      apply (ih hf.2).bind
      intro ys hys
      exact ok (List.forall_mem_cons.2 ⟨hy, hys⟩)

theorem filterM {xs : List α} (hx : ∀ x ∈ xs, Q x) (f : α → Outcome Bool) :
    Ensures (fun ys => ∀ y ∈ ys, Q y) (xs.filterM f) := by
  -- by induction on the elements to come, those that are kept being passed along
  have kept (ys : List α) (hy : ∀ y ∈ ys, Q y) :
      Ensures (fun zs => ∀ z ∈ zs, Q z) (xs.filterAuxM f ys) := by
    induction xs generalizing ys with
    | nil => exact ok hy
    | cons x xs ih =>
        rw [List.forall_mem_cons] at hx
        apply (trivial (f x)).bind
        intro keep _
        apply ih hx.2
        cases keep with
        | true => exact List.forall_mem_cons.2 ⟨hx.1, hy⟩
        | false => exact hy
  apply (kept [] nofun).bind
  intro ys hys
  exact ok fun y hy => hys y (List.mem_reverse.1 hy)

theorem foldlM {f : β → α → Outcome β} {xs : List α} {b : β} (hb : R b)
    (hf : ∀ b x, x ∈ xs → R b → Ensures R (f b x)) : Ensures R (xs.foldlM f b) := by
  induction xs generalizing b with
  | nil => exact ok hb
  | cons x xs ih =>
      rw [List.foldlM_cons]
      apply (hf b x List.mem_cons_self hb).bind
      intro b' hb'
      exact ih hb' fun b y hy => hf b y (List.mem_cons_of_mem x hy)

end Outcome.Ensures

open Outcome (Ensures)

/-! ### Hereditary classes -/

structure Json.Hereditary (P : Json → Prop) : Prop where
  scalar {v : Json} : v.isScalar = true → P v
  item {items : List Json} {v : Json} : P (.array items) → v ∈ items → P v
  member {members : List (String × Json)} {m : String × Json} :
    P (.object members) → m ∈ members → P m.2
  without {members : List (String × Json)} (names : List String) :
    P (.object members) → P (Lookup.without members names)

/-- All values of the set are in the class. -/
def ValueSet.Within (P : Json → Prop) (set : ValueSet) : Prop :=
  ∀ v ∈ set.values, P v

variable {P : Json → Prop}

namespace ValueSet

theorem within_single {v : Json} (h : P v) : (single v).Within P :=
  List.forall_mem_singleton.2 h

theorem within_many {vs : List Json} (h : ∀ v ∈ vs, P v) : (many vs).Within P :=
  h

theorem within_optional {v : Option Json} (h : ∀ x ∈ v, P x) : (optional v).Within P :=
  fun x hx => h x (Option.mem_toList.1 hx)

theorem Within.items (hP : Json.Hereditary P) {set : ValueSet} (h : set.Within P) :
    ∀ v ∈ set.items, P v := by
  unfold ValueSet.items
  split
  · rename_i whole
    split
    · exact fun v hv => hP.item (h _ (whole ▸ List.mem_singleton_self _)) hv
    · exact h
  · exact h

end ValueSet

/-- Evaluated on values of the class, the argument gives values of the class. -/
def Argument.Keeps (P : Json → Prop) (a : Argument) : Prop :=
  ∀ set, set.Within P → Ensures (ValueSet.Within P) (a.evaluate set)

/-! ### The functions -/

theorem Json.isScalar_ofBinary64 (x : Option Binary64) : (Json.ofBinary64 x).isScalar = true := by
  cases x <;> rfl

theorem Decimal96.isScalar_of_toJson? {d : Decimal96} {v : Json} (h : d.toJson? = some v) :
    v.isScalar = true := by
  have float (h : d.toBinary64.map (fun x => Json.ofBinary64 (some x)) = some v) :
      v.isScalar = true := by
    obtain ⟨x, -, rfl⟩ := Option.map_eq_some_iff.1 h
    exact Json.isScalar_ofBinary64 _
  unfold toJson? at h
  split at h
  · split at h
    · cases h
      rfl
    · exact float h
  · exact float h

theorem Number.isScalar_sum (ns : List Number) : (Number.sum ns).isScalar = true := by
  unfold Number.sum
  split
  · rename_i total exact
    obtain ⟨d, -, hd⟩ := Option.bind_eq_some_iff.1 exact
    exact Decimal96.isScalar_of_toJson? hd
  · exact Json.isScalar_ofBinary64 _

theorem Number.isScalar_average (ns : List Number) : (Number.average ns).isScalar = true := by
  unfold Number.average
  split
  · rfl
  · exact Json.isScalar_ofBinary64 _

namespace Call

variable (hP : Json.Hereditary P) {c : Call} (hc : c.input.Within P)

include hP hc

theorem members_ensures : Ensures (fun members => ∀ m ∈ members, P m.2) c.members := by
  apply Ensures.bind (Q := fun objects => ∀ members ∈ objects, ∀ m ∈ members, P (Prod.snd m))
  · apply Ensures.mapM
    intro item hi
    have within := hc.items hP item hi
    split
    · exact .ok fun m hm => hP.member within hm
    · exact .error _
  · intro objects ho
    apply Ensures.ok
    intro m hm
    obtain ⟨members, inside, hm⟩ := List.mem_flatten.1 hm
    exact ho members inside m hm

omit hc in
theorem length_ensures : Ensures (ValueSet.Within P) c.length := by
  have count (n : Nat) : (ValueSet.single (.number (.int n))).Within P :=
    ValueSet.within_single (hP.scalar rfl)
  unfold length
  dsimp only
  split
  · split
    · split
      · exact .ok (count _)
      · exact .ok (count _)
      · exact .ok (count _)
      · exact .ok (count _)
      · exact .error _
    · exact .ok (count _)
  · exact .ok (count _)

theorem keys_ensures : Ensures (ValueSet.Within P) c.keys := by
  apply (members_ensures hP hc).bind
  intro members _
  apply Ensures.ok
  apply ValueSet.within_many
  intro v hv
  obtain ⟨m, -, rfl⟩ := List.mem_map.1 hv
  exact hP.scalar rfl

theorem values_ensures : Ensures (ValueSet.Within P) c.values := by
  apply (members_ensures hP hc).bind
  intro members hm
  apply Ensures.ok
  apply ValueSet.within_many
  exact List.forall_mem_map.2 hm

theorem map_ensures (args : ∀ a ∈ c.args, a.Keeps P) : Ensures (ValueSet.Within P) c.map := by
  apply Ensures.bind (Q := fun sets => ∀ set ∈ sets, set.Within P)
  · apply Ensures.mapM
    intro item hi
    apply Ensures.bind (Q := fun a => a ∈ c.args)
    · unfold argument
      split
      · rename_i args
        exact .ok (args ▸ List.mem_cons_self)
      · exact .error _
    · intro a ha
      exact args a ha _ (ValueSet.within_single (hc.items hP item hi))
  · intro sets hs
    apply Ensures.ok
    apply ValueSet.within_many
    intro v hv
    obtain ⟨set, inside, hv⟩ := List.mem_flatMap.1 hv
    exact hs set inside v hv

theorem filter_ensures : Ensures (ValueSet.Within P) c.filter := by
  apply (Ensures.trivial _).bind
  intro arg _
  split
  · apply (Ensures.filterM (hc.items hP) _).bind
    intro kept hk
    exact .ok (ValueSet.within_many hk)
  · exact .error _

theorem extreme_ensures (better : Ordering → Bool) :
    Ensures (ValueSet.Within P) (c.extreme better) := by
  have items := hc.items hP
  unfold extreme
  split
  · exact .ok (ValueSet.within_single (hP.scalar rfl))
  · rename_i first rest split
    rw [split, List.forall_mem_cons] at items
    apply Ensures.bind (Q := P)
    · apply Ensures.foldlM items.1
      intro best item hi hb
      split
      · split
        · exact .ok (items.2 item hi)
        · exact .ok hb
      · exact .error _
    · intro best hb
      exact .ok (ValueSet.within_single hb)

theorem sort_ensures : Ensures (ValueSet.Within P) c.sort := by
  rw [sort]
  split
  · exact .error _
  · split
    · apply Ensures.ok
      apply ValueSet.within_many
      intro v hv
      exact hc.items hP v ((sorted_perm _).mem_iff.1 hv)
    · exact .error _

theorem flatten_ensures : Ensures (ValueSet.Within P) c.flatten := by
  apply Ensures.ok
  apply ValueSet.within_many
  intro v hv
  obtain ⟨item, hi, hv⟩ := List.mem_flatMap.1 hv
  have within := hc.items hP item hi
  split at hv
  · exact hP.item within hv
  · exact List.mem_singleton.1 hv ▸ within

omit hc in
theorem matchesRegex_ensures : Ensures (ValueSet.Within P) c.matchesRegex := by
  apply (Ensures.trivial _).bind
  intro pattern _
  split
  · split
    · apply Ensures.ok
      intro v hv
      obtain ⟨item, -, rfl⟩ := List.mem_map.1 hv
      split <;> exact hP.scalar rfl
    · exact .error _
  · exact .error _

end Call

theorem Builtin.run_ensures (hP : Json.Hereditary P) {c : Call} (hc : c.input.Within P)
    (args : ∀ a ∈ c.args, a.Keeps P) (b : Builtin) : Ensures (ValueSet.Within P) (b.run c) := by
  have items := hc.items hP
  cases b with
  | length => exact Call.length_ensures hP
  | keys => exact Call.keys_ensures hP hc
  | values => exact Call.values_ensures hP hc
  | map => exact Call.map_ensures hP hc args
  | filter => exact Call.filter_ensures hP hc
  | sum =>
      apply (Ensures.trivial _).bind
      intro numbers _
      exact .ok (ValueSet.within_single (hP.scalar (Number.isScalar_sum numbers)))
  | avg =>
      apply (Ensures.trivial _).bind
      intro numbers _
      exact .ok (ValueSet.within_single (hP.scalar (Number.isScalar_average numbers)))
  | min | max => exact Call.extreme_ensures hP hc _
  | first => exact .ok (ValueSet.within_optional fun v hv => items v (List.mem_of_head? hv))
  | last => exact .ok (ValueSet.within_optional fun v hv => items v (List.mem_of_getLast? hv))
  | reverse => exact .ok (ValueSet.within_many fun v hv => items v (List.mem_reverse.1 hv))
  | sort => exact Call.sort_ensures hP hc
  | unique =>
      exact .ok (ValueSet.within_many fun v hv => items v ((Call.distinct_sublist _).subset hv))
  | flatten => exact Call.flatten_ensures hP hc
  | typeNames =>
      apply Ensures.ok
      intro v hv
      obtain ⟨w, -, rfl⟩ := List.mem_map.1 hv
      exact hP.scalar rfl
  | matchesRegex => exact Call.matchesRegex_ensures hP
  | contains =>
      apply (Ensures.trivial _).bind
      intro needle _
      exact .ok (ValueSet.within_single (hP.scalar rfl))

theorem Registry.invoke_ensures (hP : Json.Hereditary P) {c : Call} (hc : c.input.Within P)
    (args : ∀ a ∈ c.args, a.Keeps P) (r : Registry) :
    Ensures (ValueSet.Within P) (r.invoke c) := by
  unfold Registry.invoke
  split
  · exact .error _
  · split
    · exact .error _
    · exact Builtin.run_ensures hP hc args _

end PathQuery
