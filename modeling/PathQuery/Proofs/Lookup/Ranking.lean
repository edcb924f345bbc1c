import Mathlib.Data.List.Sort
import Mathlib.Data.List.Lex
import Mathlib.Data.String.Basic
import PathQuery.Lookup.Fuzzy

/-!
The ranking of member names. Names are ordered by their distance and then by their text, which is a
total order, so that the candidates do not depend on the order of the members.
-/

namespace PathQuery.Lookup

variable {x y z : Nat × String}

theorem closer_iff : closer x y ↔ x.1 < y.1 ∨ x.1 = y.1 ∧ x.2.toList ≤ y.2.toList := by
  simp [closer]

theorem closer_trans (h : closer x y) (h' : closer y z) : closer x z := by
  rw [closer_iff] at *
  rcases h with h | ⟨h, hs⟩
  · left
    omega
  · rcases h' with h' | ⟨h', hs'⟩
    · left
      omega
    · exact .inr ⟨h.trans h', le_trans hs hs'⟩

theorem closer_total (x y : Nat × String) : (closer x y || closer y x) = true := by
  rw [Bool.or_eq_true, closer_iff, closer_iff]
  rcases Nat.lt_trichotomy x.1 y.1 with h | h | h
  · exact .inl (.inl h)
  · rcases le_total x.2.toList y.2.toList with hs | hs
    · exact .inl (.inr ⟨h, hs⟩)
    · exact .inr (.inr ⟨h.symm, hs⟩)
  · exact .inr (.inl h)

theorem closer_antisymm (h : closer x y) (h' : closer y x) : x = y := by
  rw [closer_iff] at *
  have near : x.1 = y.1 := by omega
  have texts : x.2.toList = y.2.toList := by
    rcases h with h | ⟨-, h⟩
    · omega
    · rcases h' with h' | ⟨-, h'⟩
      · omega
      · exact le_antisymm h h'
  exact Prod.ext near (String.toList_inj.1 texts)

theorem pairwise_closer (xs : List (Nat × String)) :
    (xs.mergeSort closer).Pairwise fun x y => closer x y := by
  have trans (x y z : Nat × String) : closer x y → closer y z → closer x z := closer_trans
  exact List.pairwise_mergeSort trans closer_total xs

/-- A list has one ranking. -/
theorem mergeSort_closer {xs ys : List (Nat × String)} (h : xs.Perm ys) :
    xs.mergeSort closer = ys.mergeSort closer := by
  apply List.Perm.eq_of_pairwise (fun x y _ _ => closer_antisymm)
  · exact pairwise_closer xs
  · exact pairwise_closer ys
  · exact ((List.mergeSort_perm xs closer).trans h).trans (List.mergeSort_perm ys closer).symm

theorem candidates_perm (config : FuzzyConfig) (name : String) {keys keys' : List String}
    (h : keys.Perm keys') : candidates config name keys = candidates config name keys' := by
  unfold candidates
  dsimp only
  rw [mergeSort_closer ((h.map _).filter _)]

end PathQuery.Lookup
