import Mathlib.Data.List.Forall2
import PathQuery.Json.Comparison

/-!
Values that differ in the order of members alone, at any depth. Such values are of one kind, find
related values under each name, and are loosely equal to the same values.
-/

namespace PathQuery.Json

/-- The same members in another order. Where names are distinct, as in every document, each finds
the same value in any order (`lookup_perm`); where one occurs twice, it must do so still. -/
structure Shuffled (ms ns : List (String × Json)) : Prop where
  perm : ms.Perm ns
  lookup : ∀ name, ms.lookup name = ns.lookup name

theorem lookup_perm {ms ns : List (String × Json)} (h : ms.Perm ns)
    (distinct : (ms.map Prod.fst).Nodup) (name : String) : ms.lookup name = ns.lookup name := by
  induction h with
  | nil => rfl
  | cons m _ ih =>
      rw [List.map_cons, List.nodup_cons] at distinct
      rw [List.lookup_cons, List.lookup_cons, ih distinct.2]
  | swap m n ms =>
      obtain ⟨a, v⟩ := m
      obtain ⟨b, w⟩ := n
      -- of two members next to each other at most one answers to the name
      have different : b ≠ a := by
        rintro rfl
        simp at distinct
      simp only [List.lookup_cons]
      by_cases hb : name = b
      · subst hb
        simp [beq_false_of_ne different]
      · simp [beq_false_of_ne hb]
  | trans h _ ih ih' => exact (ih distinct).trans (ih' ((h.map _).nodup_iff.1 distinct))

/-- The values differ at most in the order of members, at any depth. The members of the first object
come in some order with the values of the second that differ from theirs in this way. -/
inductive Reordered : Json → Json → Prop
  | null : Reordered .null .null
  | bool (b : Bool) : Reordered (.bool b) (.bool b)
  | number (n : Number) : Reordered (.number n) (.number n)
  | string (s : String) : Reordered (.string s) (.string s)
  | array {xs ys : List Json} : List.Forall₂ Reordered xs ys → Reordered (.array xs) (.array ys)
  | object {ms ns order : List (String × Json)} :
      ms.map Prod.fst = order.map Prod.fst →
        List.Forall₂ Reordered (ms.map Prod.snd) (order.map Prod.snd) →
          Shuffled order ns → Reordered (.object ms) (.object ns)

/-- Members under one name, whose values differ in the order of members. -/
def SameMember (m n : String × Json) : Prop :=
  m.1 = n.1 ∧ Reordered m.2 n.2

theorem forall₂_sameMember {ms order : List (String × Json)}
    (names : ms.map Prod.fst = order.map Prod.fst)
    (values : List.Forall₂ Reordered (ms.map Prod.snd) (order.map Prod.snd)) :
    List.Forall₂ SameMember ms order := by
  induction ms generalizing order with
  | nil =>
      cases order with
      | nil => exact .nil
      | cons _ _ => cases names
  | cons m ms ih =>
      cases order with
      | nil => cases names
      | cons n order =>
          rw [List.map_cons, List.map_cons, List.cons.injEq] at names
          cases values with
          | cons v vs => exact .cons ⟨names.1, v⟩ (ih names.2 vs)

theorem names_sameMember {ms order : List (String × Json)}
    (h : List.Forall₂ SameMember ms order) : ms.map Prod.fst = order.map Prod.fst := by
  induction h with
  | nil => rfl
  | cons hm _ ih => rw [List.map_cons, List.map_cons, hm.1, ih]

namespace Reordered

/-- The members of two objects that differ in their order. -/
theorem members {ms ns : List (String × Json)} (h : Reordered (.object ms) (.object ns)) :
    ∃ order, List.Forall₂ SameMember ms order ∧ Shuffled order ns := by
  cases h with
  | object names values shuffled => exact ⟨_, forall₂_sameMember names values, shuffled⟩

theorem of_members {ms ns order : List (String × Json)} (h : List.Forall₂ SameMember ms order)
    (shuffled : Shuffled order ns) : Reordered (.object ms) (.object ns) := by
  refine .object (names_sameMember h) ?_ shuffled
  rw [List.forall₂_map_left_iff, List.forall₂_map_right_iff]
  exact h.imp fun _ _ hm => hm.2

theorem kind {x y : Json} (h : Reordered x y) : x.kind = y.kind := by
  cases h <;> rfl

theorem isScalar {x y : Json} (h : Reordered x y) : x.isScalar = y.isScalar := by
  cases h <;> rfl

mutual

theorem refl (x : Json) : Reordered x x := by
  match x with
  | .null => exact .null
  | .bool b => exact .bool b
  | .number n => exact .number n
  | .string s => exact .string s
  | .array items => exact .array (refl_items items)
  | .object members => exact .object rfl (refl_members members) ⟨.refl _, fun _ => rfl⟩

theorem refl_items (xs : List Json) : List.Forall₂ Reordered xs xs := by
  match xs with
  | [] => exact .nil
  | x :: rest => exact .cons (refl x) (refl_items rest)

theorem refl_members (ms : List (String × Json)) :
    List.Forall₂ Reordered (ms.map Prod.snd) (ms.map Prod.snd) := by
  match ms with
  | [] => exact .nil
  | (_, v) :: rest => exact .cons (refl v) (refl_members rest)

end

/-- Objects whose members are in another order. -/
theorem of_perm {ms ns : List (String × Json)} (h : ms.Perm ns)
    (distinct : (ms.map Prod.fst).Nodup) : Reordered (.object ms) (.object ns) :=
  .object rfl (refl_members ms) ⟨h, lookup_perm h distinct⟩

end Reordered

/-! ### What is the same for such values -/

theorem lookup_sameMember {ms order : List (String × Json)} (h : List.Forall₂ SameMember ms order)
    (name : String) : Option.Rel Reordered (ms.lookup name) (order.lookup name) := by
  induction h with
  | nil => exact .none
  | @cons m n _ _ hm _ ih =>
      obtain ⟨a, v⟩ := m
      obtain ⟨b, w⟩ := n
      obtain ⟨rfl, hv⟩ : a = b ∧ Reordered v w := hm
      rw [List.lookup_cons, List.lookup_cons]
      cases name == a with
      | true => exact .some hv
      | false => exact ih

theorem Reordered.lookup {ms ns : List (String × Json)}
    (h : Reordered (.object ms) (.object ns)) (name : String) :
    Option.Rel Reordered (ms.lookup name) (ns.lookup name) := by
  obtain ⟨order, same, shuffled⟩ := h.members
  rw [← shuffled.lookup]
  exact lookup_sameMember same name

theorem Reordered.names {ms ns : List (String × Json)}
    (h : Reordered (.object ms) (.object ns)) : (ms.map Prod.fst).Perm (ns.map Prod.fst) := by
  obtain ⟨order, same, shuffled⟩ := h.members
  rw [names_sameMember same]
  exact shuffled.perm.map _

theorem compareOrdered_reordered {x x' y y' : Json} (hx : Reordered x x') (hy : Reordered y y') :
    compareOrdered x y = compareOrdered x' y' := by
  cases hx <;> cases hy <;> rfl

theorem looseEqMembers_eq_all (ms ns : List (String × Json)) :
    looseEqMembers ms ns = ms.all fun m => (ns.lookup m.1).any fun v => looseEq m.2 v := by
  induction ms with
  | nil => rw [looseEqMembers, List.all_nil]
  | cons m rest ih =>
      obtain ⟨name, v⟩ := m
      rw [looseEqMembers, List.all_cons, ih]
      cases ns.lookup name <;> rfl

theorem looseEqMembers_perm {ms ms' : List (String × Json)} (h : ms.Perm ms')
    (ns : List (String × Json)) : looseEqMembers ms ns = looseEqMembers ms' ns := by
  rw [looseEqMembers_eq_all, looseEqMembers_eq_all]
  exact h.all_eq

mutual

theorem looseEq_reordered (x : Json) {x' y y' : Json} (hx : Reordered x x')
    (hy : Reordered y y') : looseEq x y = looseEq x' y' := by
  match x, hx with
  | .null, .null | .bool _, .bool _ | .number _, .number _ | .string _, .string _ =>
      cases hy <;> rfl
  | .array xs, .array hx =>
      cases hy with
      | array hy =>
          rw [looseEq, looseEq]
          exact looseEqItems_reordered xs hx hy
      | _ => rfl
  | .object ms, .object names values shuffled =>
      cases hy with
      | object names' values' shuffled' =>
          -- the members on the left may be taken in any order, those on the right are looked up
          have other := Reordered.object names' values' shuffled'
          have same := forall₂_sameMember names values
          have lengths : ms.length = _ := same.length_eq.trans shuffled.perm.length_eq
          have lengths' := other.names.length_eq
          rw [List.length_map, List.length_map] at lengths'
          rw [looseEq, looseEq, lengths, lengths',
            looseEqMembers_reordered ms same other.lookup, looseEqMembers_perm shuffled.perm]
      | _ => rfl

theorem looseEqItems_reordered (xs : List Json) {xs' ys ys' : List Json}
    (hx : List.Forall₂ Reordered xs xs') (hy : List.Forall₂ Reordered ys ys') :
    looseEqItems xs ys = looseEqItems xs' ys' := by
  match xs, hx with
  | [], .nil => cases hy <;> rfl
  | x :: rest, .cons hx hrest =>
      cases hy with
      | nil => rfl
      | cons hy hys =>
          rw [looseEqItems, looseEqItems, looseEq_reordered x hx hy,
            looseEqItems_reordered rest hrest hys]

theorem looseEqMembers_reordered (ms : List (String × Json)) {order ns ns' : List (String × Json)}
    (h : List.Forall₂ SameMember ms order)
    (hn : ∀ name, Option.Rel Reordered (ns.lookup name) (ns'.lookup name)) :
    looseEqMembers ms ns = looseEqMembers order ns' := by
  match ms, h with
  | [], .nil => rfl
  | (name, v) :: rest, @List.Forall₂.cons _ _ _ _ (_, w) _ _ ⟨hn', hv⟩ hrest =>
      dsimp only at hn'
      subst hn'
      rw [looseEqMembers, looseEqMembers, looseEqMembers_reordered rest hrest hn]
      have found := hn name
      generalize ns.lookup name = l, ns'.lookup name = l' at found
      cases found with
      | none => rfl
      | some hl =>
          dsimp only
          rw [looseEq_reordered v hv hl]

end

end PathQuery.Json
