import PathQuery.Lookup.Element
import PathQuery.Proofs.Json.MemberOrder
import PathQuery.Proofs.Lookup.Ranking

/-!
What is looked up in values that differ in the order of members differs in that order too. Only the
members as a list would show the order itself.
-/

namespace PathQuery.Lookup

open Json

/-! ### Elements -/

section

variable {α β : Type} {R : α → β → Prop}

theorem forall₂_getElem? {xs : List α} {ys : List β} (h : List.Forall₂ R xs ys) (i : Nat) :
    Option.Rel R xs[i]? ys[i]? := by
  induction h generalizing i with
  | nil => exact .none
  | cons hx _ ih =>
      cases i with
      | zero => exact .some hx
      | succ i => exact ih i

theorem forall₂_filterMap {ι : Type} {f : ι → Option α} {g : ι → Option β}
    (h : ∀ i, Option.Rel R (f i) (g i)) (is : List ι) :
    List.Forall₂ R (is.filterMap f) (is.filterMap g) := by
  induction is with
  | nil => exact .nil
  | cons i is ih =>
      rw [List.filterMap_cons, List.filterMap_cons]
      have found := h i
      generalize f i = a, g i = b at found
      cases found with
      | none => exact ih
      | some hab => exact .cons hab ih

theorem rel_findSome? {ι : Type} {f : ι → Option α} {g : ι → Option β}
    (h : ∀ i, Option.Rel R (f i) (g i)) (is : List ι) :
    Option.Rel R (is.findSome? f) (is.findSome? g) := by
  induction is with
  | nil => exact .none
  | cons i is ih =>
      rw [List.findSome?_cons, List.findSome?_cons]
      have found := h i
      generalize f i = a, g i = b at found
      cases found with
      | none => exact ih
      | some hab => exact .some hab

end

variable {xs ys : List Json} {ms ns : List (String × Json)}

theorem index?_reordered (h : List.Forall₂ Reordered xs ys) (i : Int) :
    Option.Rel Reordered (index? xs i) (index? ys i) := by
  unfold index?
  rw [h.length_eq]
  generalize (if i < 0 then ys.length + i else i) = place
  dsimp only
  split
  · exact .none
  · exact forall₂_getElem? h _

theorem slice_reordered (h : List.Forall₂ Reordered xs ys) (s : Slice) :
    List.Forall₂ Reordered (slice xs s) (slice ys s) := by
  unfold slice
  rw [h.length_eq]
  exact forall₂_filterMap (fun _ => forall₂_getElem? h _) _

/-! ### Members -/

theorem lookup_without (ms : List (String × Json)) (names : List String) (name : String) :
    (ms.filter fun m => !names.contains m.1).lookup name =
      if names.contains name then none else ms.lookup name := by
  induction ms with
  | nil => simp
  | cons m ms ih =>
      obtain ⟨a, v⟩ := m
      -- a member that is left out answers to no name that is kept
      rw [List.filter_cons, List.lookup_cons]
      dsimp only
      cases hc : names.contains a with
      | true =>
          rw [Bool.not_true, if_neg Bool.false_ne_true, ih]
          by_cases ha : name = a
          · rw [ha, hc, if_pos rfl, if_pos rfl]
          · rw [beq_false_of_ne ha]
      | false =>
          rw [Bool.not_false, if_pos rfl, List.lookup_cons, ih]
          by_cases ha : name = a
          · rw [ha, hc, if_neg Bool.false_ne_true, if_neg Bool.false_ne_true]
          · rw [beq_false_of_ne ha]

theorem without_reordered (h : Reordered (.object ms) (.object ns)) (names : List String) :
    Reordered (without ms names) (without ns names) := by
  obtain ⟨order, same, shuffled⟩ := h.members
  have kept : List.Forall₂ SameMember (ms.filter fun m => !names.contains m.1)
      (order.filter fun m => !names.contains m.1) := by
    refine List.rel_filter (fun m n hm => ?_) same
    show (!names.contains m.1) = true ↔ (!names.contains n.1) = true
    rw [hm.1]
  refine .of_members kept ⟨shuffled.perm.filter _, fun name => ?_⟩
  rw [lookup_without, lookup_without, shuffled.lookup]

theorem member?_reordered (config : FuzzyConfig) (h : Reordered (.object ms) (.object ns))
    (name : String) : Option.Rel Reordered (member? config ms name) (member? config ns name) := by
  unfold member?
  have found := h.lookup name
  rw [candidates_perm config name h.names]
  generalize ms.lookup name = l, ns.lookup name = l' at found
  cases found with
  | some hv => exact .some hv
  | none =>
      dsimp only
      split
      · generalize candidates config name (ns.map (·.1)) = close
        match close with
        | [only] => exact h.lookup only
        | [] | _ :: _ :: _ => exact .none
      · exact .none

end PathQuery.Lookup
