import Mathlib.Order.Bounds.Basic
import Mathlib.Data.List.Induction
import PathQuery.Proofs.Access.DistanceTable

/-!
Alignments of two texts. An alignment cuts both texts into consecutive blocks, in each of which a
character is kept, inserted, deleted or substituted, or two neighbours are swapped; so no part is
edited twice. The distance of two texts is the least number of edits in any alignment of them. As
an alignment can be read in both directions, the distance is symmetric, and as only copies are no
edits, it is zero between equal texts alone.
-/

namespace PathQuery.EditDistance

inductive Block where
  | copy (c : Char)
  | insert (c : Char)
  | delete (c : Char)
  | substitute (c d : Char)
  | swap (c d : Char)

namespace Block

/-- The part of the first text. -/
def source : Block → List Char
  | copy c => [c]
  | insert _ => []
  | delete c => [c]
  | substitute c _ => [c]
  | swap c d => [c, d]

/-- The part of the second text. -/
def target : Block → List Char
  | copy c => [c]
  | insert c => [c]
  | delete _ => []
  | substitute _ d => [d]
  | swap c d => [d, c]

def edits : Block → Nat
  | copy _ => 0
  | insert _ | delete _ | substitute _ _ | swap _ _ => 1

/-- The same block from the second text to the first. -/
def inverse : Block → Block
  | copy c => copy c
  | insert c => delete c
  | delete c => insert c
  | substitute c d => substitute d c
  | swap c d => swap d c

@[simp] theorem source_inverse (b : Block) : b.inverse.source = b.target := by
  cases b <;> rfl

@[simp] theorem target_inverse (b : Block) : b.inverse.target = b.source := by
  cases b <;> rfl

@[simp] theorem edits_inverse (b : Block) : b.inverse.edits = b.edits := by
  cases b <;> rfl

theorem target_eq_source {b : Block} (h : b.edits = 0) : b.target = b.source := by
  cases b with
  | copy c => rfl
  | insert | delete | substitute | swap => cases h

end Block

/-- The blocks make up `s` on one side and `t` on the other. -/
structure Aligns (blocks : List Block) (s t : List Char) : Prop where
  source : blocks.flatMap Block.source = s
  target : blocks.flatMap Block.target = t

def edits (blocks : List Block) : Nat :=
  (blocks.map Block.edits).sum

theorem edits_append (blocks : List Block) (b : Block) :
    edits (blocks ++ [b]) = edits blocks + b.edits := by
  simp [edits]

namespace Aligns

variable {blocks : List Block} {s t : List Char}

theorem inverse (h : Aligns blocks s t) : Aligns (blocks.map Block.inverse) t s where
  source := by simp [List.flatMap_map, h.target]
  target := by simp [List.flatMap_map, h.source]

theorem copying (s : List Char) : Aligns (s.map .copy) s s where
  source := by simp [List.flatMap_map, Block.source]
  target := by simp [List.flatMap_map, Block.target]

theorem eq_of_edits_eq_zero (h : Aligns blocks s t) (none : edits blocks = 0) : s = t := by
  rw [← h.source, ← h.target]
  refine List.flatMap_congr fun b hb => (Block.target_eq_source ?_).symm
  exact List.sum_eq_zero_iff.1 none _ (List.mem_map_of_mem hb)

end Aligns

theorem edits_inverse (blocks : List Block) : edits (blocks.map Block.inverse) = edits blocks := by
  simp [edits, Function.comp_def]

variable {s t : List Char} {b : Block} {blocks : List Block} {k l i j : Nat}

/-! ### Steps from cell to cell -/

/-- The block leads from the beginnings of `k` and `l` characters to those of `i` and `j`. -/
inductive Leads (s t : List Char) : Block → (k l i j : Nat) → Prop
  | copy {c : Char} {i j : Nat} : s[i]? = some c → t[j]? = some c →
      Leads s t (.copy c) i j (i + 1) (j + 1)
  | insert {c : Char} {i j : Nat} : t[j]? = some c → Leads s t (.insert c) i j i (j + 1)
  | delete {c : Char} {i j : Nat} : s[i]? = some c → Leads s t (.delete c) i j (i + 1) j
  | substitute {c d : Char} {i j : Nat} : s[i]? = some c → t[j]? = some d →
      Leads s t (.substitute c d) i j (i + 1) (j + 1)
  | swap {c d : Char} {i j : Nat} : s[i]? = some c → s[i + 1]? = some d → t[j]? = some d →
      t[j + 1]? = some c → Leads s t (.swap c d) i j (i + 2) (j + 2)

/-- The next cell, were there no swaps. -/
def unswapped (s t : List Char) (i j : Nat) : Nat :=
  min (min (entry s t i (j + 1) + 1) (entry s t (i + 1) j + 1))
    (entry s t i j + if s[i]? = t[j]? then 0 else 1)

theorem entry_succ_eq (i j : Nat) : entry s t (i + 1) (j + 1) =
    if 0 < i ∧ 0 < j ∧ s[i]? = t[j - 1]? ∧ s[i - 1]? = t[j]? then
      min (unswapped s t i j) (entry s t (i - 1) (j - 1) + 1)
    else unswapped s t i j := by
  rw [entry]
  rfl

theorem entry_le_unswapped (i j : Nat) : entry s t (i + 1) (j + 1) ≤ unswapped s t i j := by
  rw [entry_succ_eq]
  split
  · exact Nat.min_le_left _ _
  · exact Nat.le_refl _

theorem entry_succ_right_le (i j : Nat) : entry s t i (j + 1) ≤ entry s t i j + 1 := by
  cases i with
  | zero => simp
  | succ i =>
      exact (entry_le_unswapped i j).trans ((Nat.min_le_left _ _).trans (Nat.min_le_right _ _))

theorem entry_succ_left_le (i j : Nat) : entry s t (i + 1) j ≤ entry s t i j + 1 := by
  cases j with
  | zero => simp
  | succ j =>
      exact (entry_le_unswapped i j).trans ((Nat.min_le_left _ _).trans (Nat.min_le_left _ _))

theorem entry_succ_le (i j : Nat) :
    entry s t (i + 1) (j + 1) ≤ entry s t i j + if s[i]? = t[j]? then 0 else 1 :=
  (entry_le_unswapped i j).trans (Nat.min_le_right _ _)

theorem entry_succ_succ_le (here : s[i + 1]? = t[j]?) (there : s[i]? = t[j + 1]?) :
    entry s t (i + 2) (j + 2) ≤ entry s t i j + 1 := by
  rw [entry_succ_eq, if_pos ⟨Nat.succ_pos i, Nat.succ_pos j, here, there⟩]
  exact Nat.min_le_right _ _

namespace Leads

theorem lt (h : Leads s t b k l i j) : k ≤ i ∧ l ≤ j ∧ k + l < i + j := by
  cases h <;> omega

/-- No step leads to a cell that holds more. -/
theorem entry_le (h : Leads s t b k l i j) : entry s t i j ≤ entry s t k l + b.edits := by
  cases h with
  | copy hs ht =>
      have := entry_succ_le (s := s) (t := t) k l
      rwa [if_pos (hs.trans ht.symm)] at this
  | insert _ => exact entry_succ_right_le k l
  | delete _ => exact entry_succ_left_le k l
  | substitute _ _ =>
      refine (entry_succ_le k l).trans (Nat.add_le_add_left ?_ _)
      rw [Block.edits]
      split <;> decide
  | swap hs hs' ht ht' => exact entry_succ_succ_le (hs'.trans ht.symm) (hs.trans ht'.symm)

end Leads

theorem exists_leads_unswapped (hi : i < s.length) (hj : j < t.length) :
    ∃ b k l, Leads s t b k l (i + 1) (j + 1) ∧ unswapped s t i j = entry s t k l + b.edits := by
  have hs : s[i]? = some s[i] := List.getElem?_eq_getElem hi
  have ht : t[j]? = some t[j] := List.getElem?_eq_getElem hj
  unfold unswapped
  rcases min_choice (min (entry s t i (j + 1) + 1) (entry s t (i + 1) j + 1))
    (entry s t i j + if s[i]? = t[j]? then 0 else 1) with least | least
  · rw [least]
    rcases min_choice (entry s t i (j + 1) + 1) (entry s t (i + 1) j + 1) with least | least
    · exact ⟨_, _, _, .delete hs, least⟩
    · exact ⟨_, _, _, .insert ht, least⟩
  · rw [least]
    split
    · rename_i same
      exact ⟨_, _, _, .copy hs (same.symm.trans hs), rfl⟩
    · exact ⟨_, _, _, .substitute hs ht, rfl⟩

/-- Behind the first cell, some step leads to the cell from one that holds as much less as the step
edits. -/
theorem exists_leads (hi : i ≤ s.length) (hj : j ≤ t.length) (behind : 0 < i + j) :
    ∃ b k l, Leads s t b k l i j ∧ entry s t i j = entry s t k l + b.edits := by
  match i, j with
  | 0, 0 => cases behind
  | 0, j + 1 =>
      refine ⟨_, _, _, .insert (List.getElem?_eq_getElem hj), ?_⟩
      rw [entry_zero_left, entry_zero_left, Block.edits]
  | i + 1, 0 =>
      refine ⟨_, _, _, .delete (List.getElem?_eq_getElem hi), ?_⟩
      rw [entry_zero_right, entry_zero_right, Block.edits]
  | i + 1, j + 1 =>
      have edited := exists_leads_unswapped hi hj
      rw [entry_succ_eq]
      split
      · rename_i swapped
        obtain ⟨positive, positive', here, there⟩ := swapped
        rcases min_choice (unswapped s t i j) (entry s t (i - 1) (j - 1) + 1) with least | least
        · rw [least]
          exact edited
        · rw [least]
          obtain ⟨i, rfl⟩ : ∃ n, i = n + 1 := ⟨i - 1, by omega⟩
          obtain ⟨j, rfl⟩ : ∃ n, j = n + 1 := ⟨j - 1, by omega⟩
          have hs := List.getElem?_eq_getElem hi
          have ht := List.getElem?_eq_getElem hj
          exact ⟨_, _, _, .swap (there.trans ht) hs (here.symm.trans hs) ht, rfl⟩
      · exact edited

/-! ### Alignments of beginnings -/

theorem take_succ_eq {c : Char} (h : s[i]? = some c) : s.take (i + 1) = s.take i ++ [c] := by
  rw [List.take_add_one, h, Option.toList_some]

/-- A beginning that ends in `c`. -/
theorem exists_of_append_eq_take {front : List Char} {c : Char} (hi : i ≤ s.length)
    (h : front ++ [c] = s.take i) : ∃ k, i = k + 1 ∧ s[k]? = some c ∧ front = s.take k := by
  cases i with
  | zero => simp at h
  | succ k =>
      have inside : s[k]? = some s[k] := List.getElem?_eq_getElem hi
      rw [take_succ_eq inside] at h
      obtain ⟨front, last⟩ := List.append_inj' h rfl
      cases last
      exact ⟨k, rfl, inside, front⟩

theorem Aligns.append (h : Aligns blocks (s.take k) (t.take l)) (step : Leads s t b k l i j) :
    Aligns (blocks ++ [b]) (s.take i) (t.take j) := by
  obtain ⟨source, target⟩ := h
  constructor <;> rw [List.flatMap_append, List.flatMap_singleton]
  · rw [source]
    cases step with
    | copy hs _ | delete hs | substitute hs _ => exact (take_succ_eq hs).symm
    | insert _ => exact List.append_nil _
    | swap hs hs' _ _ => rw [take_succ_eq hs', take_succ_eq hs, List.append_assoc]; rfl
  · rw [target]
    cases step with
    | copy _ ht | insert ht | substitute _ ht => exact (take_succ_eq ht).symm
    | delete _ => exact List.append_nil _
    | swap _ _ ht ht' => rw [take_succ_eq ht', take_succ_eq ht, List.append_assoc]; rfl

/-- The last block of an alignment is a step from what the others align. -/
theorem Aligns.exists_leads (hi : i ≤ s.length) (hj : j ≤ t.length)
    (h : Aligns (blocks ++ [b]) (s.take i) (t.take j)) :
    ∃ k l, Leads s t b k l i j ∧ Aligns blocks (s.take k) (t.take l) := by
  obtain ⟨source, target⟩ := h
  rw [List.flatMap_append, List.flatMap_singleton] at source target
  cases b with
  | copy c =>
      obtain ⟨k, rfl, hs, source⟩ := exists_of_append_eq_take hi source
      obtain ⟨l, rfl, ht, target⟩ := exists_of_append_eq_take hj target
      exact ⟨k, l, .copy hs ht, source, target⟩
  | insert c =>
      obtain ⟨l, rfl, ht, target⟩ := exists_of_append_eq_take hj target
      exact ⟨i, l, .insert ht, (List.append_nil _).symm.trans source, target⟩
  | delete c =>
      obtain ⟨k, rfl, hs, source⟩ := exists_of_append_eq_take hi source
      exact ⟨k, j, .delete hs, source, (List.append_nil _).symm.trans target⟩
  | substitute c d =>
      obtain ⟨k, rfl, hs, source⟩ := exists_of_append_eq_take hi source
      obtain ⟨l, rfl, ht, target⟩ := exists_of_append_eq_take hj target
      exact ⟨k, l, .substitute hs ht, source, target⟩
  | swap c d =>
      rw [Block.source, List.append_cons] at source
      rw [Block.target, List.append_cons] at target
      obtain ⟨k', rfl, hs', source⟩ := exists_of_append_eq_take hi source
      obtain ⟨l', rfl, ht', target⟩ := exists_of_append_eq_take hj target
      obtain ⟨k, rfl, hs, source⟩ := exists_of_append_eq_take (Nat.le_of_lt hi) source
      obtain ⟨l, rfl, ht, target⟩ := exists_of_append_eq_take (Nat.le_of_lt hj) target
      exact ⟨k, l, .swap hs hs' ht ht', source, target⟩

/-- Each cell is met by an alignment of its beginnings. -/
theorem exists_aligns (hi : i ≤ s.length) (hj : j ≤ t.length) :
    ∃ blocks, Aligns blocks (s.take i) (t.take j) ∧ edits blocks = entry s t i j := by
  induction size : i + j using Nat.strong_induction_on generalizing i j with
  | h size ih =>
      by_cases behind : 0 < i + j
      · obtain ⟨b, k, l, step, cell⟩ := exists_leads hi hj behind
        have before := step.lt
        obtain ⟨blocks, aligned, least⟩ :=
          ih (k + l) (by omega) (by omega) (by omega) rfl
        refine ⟨blocks ++ [b], aligned.append step, ?_⟩
        rw [edits_append, least, cell]
      · obtain ⟨rfl, rfl⟩ : i = 0 ∧ j = 0 := by omega
        exact ⟨[], ⟨rfl, rfl⟩, (entry_zero_left 0).symm⟩

/-- No alignment of two beginnings has fewer edits than their cell says. -/
theorem Aligns.entry_le (hi : i ≤ s.length) (hj : j ≤ t.length)
    (h : Aligns blocks (s.take i) (t.take j)) : entry s t i j ≤ edits blocks := by
  induction blocks using List.reverseRecOn generalizing i j with
  | nil =>
      have empty {r : List Char} {k : Nat} (hk : k ≤ r.length) (h : [] = r.take k) : k = 0 := by
        rw [← List.length_take_of_le hk, ← h, List.length_nil]
      rw [empty hi h.source, entry_zero_left, empty hj h.target]
      exact Nat.zero_le _
  | append_singleton blocks b ih =>
      obtain ⟨k, l, step, rest⟩ := h.exists_leads hi hj
      have before := step.lt
      calc
        entry s t i j
        _ ≤ entry s t k l + b.edits := step.entry_le
        _ ≤ edits blocks + b.edits := Nat.add_le_add_right (ih (by omega) (by omega) rest) _
        _ = edits (blocks ++ [b]) := (edits_append blocks b).symm

/-! ### The distance -/

theorem distance_isLeast (s t : List Char) :
    IsLeast {n | ∃ blocks, Aligns blocks s t ∧ edits blocks = n} (distance s t) := by
  rw [distance_eq_entry]
  constructor
  · have met := exists_aligns (Nat.le_refl s.length) (Nat.le_refl t.length)
    rwa [List.take_length, List.take_length] at met
  · rintro n ⟨blocks, aligned, rfl⟩
    apply Aligns.entry_le (Nat.le_refl s.length) (Nat.le_refl t.length)
    rwa [List.take_length, List.take_length]

theorem distance_comm_le (s t : List Char) : distance t s ≤ distance s t := by
  obtain ⟨blocks, aligned, least⟩ := (distance_isLeast s t).1
  rw [← least, ← edits_inverse]
  exact (distance_isLeast t s).2 ⟨_, aligned.inverse, rfl⟩

theorem distance_eq_zero_iff (s t : List Char) : distance s t = 0 ↔ s = t := by
  constructor
  · intro zero
    obtain ⟨blocks, aligned, least⟩ := (distance_isLeast s t).1
    exact aligned.eq_of_edits_eq_zero (least.trans zero)
  · rintro rfl
    refine Nat.le_zero.1 ((distance_isLeast s s).2 ⟨_, .copying s, ?_⟩)
    simp [edits, Function.comp_def, Block.edits]

/-- The table gives the least number of edits in any alignment of the two texts. It is the same in
both directions, and zero only if nothing is to be done. -/
theorem distance_optimal (s t : List Char) :
    Guarded.distance? s t = some (distance s t) ∧
      IsLeast {n | ∃ blocks, Aligns blocks s t ∧ edits blocks = n} (distance s t) ∧
      distance t s = distance s t ∧ (distance s t = 0 ↔ s = t) :=
  ⟨Guarded.distance?_eq s t, distance_isLeast s t,
    Nat.le_antisymm (distance_comm_le s t) (distance_comm_le t s), distance_eq_zero_iff s t⟩

/-- Between two swapped characters nothing is inserted any more, so that two edits are not enough. -/
example : distance ['c', 'a'] ['a', 'b', 'c'] = 3 := by decide

end PathQuery.EditDistance
