import PathQuery.Lookup.EditDistance
import PathQuery.Proofs.Access.Element

/-!
The table of distances between the beginnings of two texts, filled cell by cell. The functions
here refuse, by giving nothing, to look at or to write a cell outside of the table, to look at a
character outside of a text, and to count below zero. They never refuse, and the cell of both texts
as wholes holds their distance.
-/

namespace PathQuery

/-! ### Distances between beginnings -/

namespace EditDistance

/-- The distance between the first `i` characters of `s` and the first `j` of `t`. -/
def entry (s t : List Char) : (i j : Nat) → Nat
  | 0, j => j
  | i + 1, 0 => i + 1
  | i + 1, j + 1 =>
    let edited := min (min (entry s t i (j + 1) + 1) (entry s t (i + 1) j + 1))
      (entry s t i j + if s[i]? = t[j]? then 0 else 1)
    if 0 < i ∧ 0 < j ∧ s[i]? = t[j - 1]? ∧ s[i - 1]? = t[j]? then
      min edited (entry s t (i - 1) (j - 1) + 1)
    else edited
termination_by i j => i + j

variable {s t : List Char}

@[simp] theorem entry_zero_left (j : Nat) : entry s t 0 j = j := by
  rw [entry]

@[simp] theorem entry_zero_right (i : Nat) : entry s t i 0 = i := by
  cases i <;> rw [entry]

/-- The row of the first `i` characters of `s`. -/
def rowOf (s t : List Char) (i : Nat) : List Nat :=
  (List.range (t.length + 1)).map (entry s t i)

/-- The character before place `k`. -/
def previous (s : List Char) (k : Nat) : Option Char :=
  if k = 0 then none else s[k - 1]?

/-- The row two above that of the first `i + 1` characters, from two columns before `j + 1` on. -/
def higherFrom (s t : List Char) (i j : Nat) : List Nat :=
  if i = 0 then [] else (rowOf s t (i - 1)).drop (j - 1)

theorem drop_rowOf {i j : Nat} (hj : j ≤ t.length) :
    (rowOf s t i).drop j = entry s t i j :: (rowOf s t i).drop (j + 1) := by
  have inside : j < (rowOf s t i).length := by
    rw [rowOf, List.length_map, List.length_range]
    omega
  rw [List.drop_eq_getElem_cons inside]
  simp [rowOf]

theorem tail_higherFrom {i j : Nat} (hj : j ≤ t.length) :
    (if (previous t j).isSome then (higherFrom s t i j).tail else higherFrom s t i j) =
      higherFrom s t i (j + 1) := by
  unfold previous higherFrom
  cases j with
  | zero => rfl
  | succ j =>
      have seen : (t[j]?).isSome := by
        rw [List.getElem?_eq_getElem (by omega)]
        rfl
      simp only [Nat.succ_ne_zero, if_false, Nat.add_sub_cancel, seen, if_true]
      split
      · rfl
      · rw [List.tail_drop]

/-- One cell from its neighbours, as the row computes it. -/
theorem entry_succ {i j : Nat} (hi : i < s.length) (hj : j < t.length) :
    entry s t (i + 1) (j + 1) =
      let edited := min (min (entry s t i (j + 1) + 1) (entry s t (i + 1) j + 1))
        (entry s t i j + if s[i] = t[j] then 0 else 1)
      match higherFrom s t i j with
      | swapped :: _ =>
        if previous s i = some t[j] ∧ previous t j = some s[i] then min edited (swapped + 1)
        else edited
      | [] => edited := by
  rw [entry, List.getElem?_eq_getElem hi, List.getElem?_eq_getElem hj]
  simp only [Option.some.injEq]
  cases i with
  | zero => simp [higherFrom]
  | succ i =>
      rw [higherFrom, if_neg (Nat.succ_ne_zero i), Nat.add_sub_cancel, drop_rowOf (by omega)]
      dsimp only
      cases j with
      | zero => simp [previous]
      | succ j =>
          refine if_congr ?_ rfl rfl
          simp only [previous, Nat.succ_ne_zero, if_false, Nat.add_sub_cancel, Nat.succ_pos,
            true_and, eq_comm (a := some s[i + 1])]
          exact and_comm

theorem rowCells_eq {i j : Nat} (hi : i < s.length) (hj : j ≤ t.length) :
    rowCells s[i] (previous s i) (entry s t (i + 1) j) (previous t j) (t.drop j)
      ((rowOf s t i).drop j) (higherFrom s t i j) = (rowOf s t (i + 1)).drop (j + 1) := by
  -- by induction on the columns that are left
  induction left : t.length - j generalizing j with
  | zero =>
      obtain rfl : j = t.length := by omega
      rw [List.drop_length]
      simp [rowCells, rowOf]
  | succ n ih =>
      have inside : j < t.length := by omega
      have passed : previous t (j + 1) = some t[j] := by
        rw [previous, if_neg (Nat.succ_ne_zero j), Nat.add_sub_cancel,
          List.getElem?_eq_getElem inside]
      have rest := ih (j := j + 1) (by omega) (by omega)
      rw [passed, entry_succ hi inside, drop_rowOf (by omega), ← tail_higherFrom hj] at rest
      rw [List.drop_eq_getElem_cons inside, drop_rowOf hj, drop_rowOf (by omega),
        drop_rowOf (i := i + 1) (by omega), entry_succ hi inside, ← rest]
      rfl

theorem row_eq {i : Nat} (hi : i < s.length) :
    row s[i] (previous s i) t (rowOf s t i) (higherFrom s t i 0) = rowOf s t (i + 1) := by
  have whole (k : Nat) : rowOf s t k = k :: (rowOf s t k).drop 1 := by
    simpa using drop_rowOf (s := s) (i := k) (Nat.zero_le t.length)
  have first : (rowOf s t i).headD 0 = i := by
    rw [whole i]
    rfl
  have cells := rowCells_eq (s := s) hi (Nat.zero_le t.length)
  rw [entry_zero_right, List.drop_zero, List.drop_zero] at cells
  rw [row, first, whole (i + 1), ← cells]
  rfl

theorem lastRow_eq {i : Nat} (hi : i ≤ s.length) :
    lastRow t (previous s i) (s.drop i) (rowOf s t i) (higherFrom s t i 0) =
      rowOf s t s.length := by
  -- by induction on the rows that are left
  induction left : s.length - i generalizing i with
  | zero =>
      obtain rfl : i = s.length := by omega
      rw [List.drop_length, lastRow]
  | succ n ih =>
      have inside : i < s.length := by omega
      have before : previous s (i + 1) = some s[i] := by
        rw [previous, if_neg (Nat.succ_ne_zero i), Nat.add_sub_cancel,
          List.getElem?_eq_getElem inside]
      have above : higherFrom s t (i + 1) 0 = rowOf s t i := by
        rw [higherFrom, if_neg (Nat.succ_ne_zero i), Nat.add_sub_cancel, List.drop_zero]
      have rest := ih (i := i + 1) (by omega) (by omega)
      rw [List.drop_eq_getElem_cons inside, lastRow, row_eq inside, ← before, ← above, rest]

/-- The rows compute the entry for both texts as wholes. -/
theorem distance_eq_entry (s t : List Char) :
    distance s t = entry s t s.length t.length := by
  have rows := lastRow_eq (t := t) (Nat.zero_le s.length)
  have top : rowOf s t 0 = List.range (t.length + 1) := by
    rw [rowOf, List.map_congr_left fun j _ => entry_zero_left j, List.map_id']
  rw [top, List.drop_zero] at rows
  calc
    distance s t
    _ = (lastRow t (previous s 0) s (List.range (t.length + 1)) (higherFrom s t 0 0)).getLastD 0 :=
      rfl
    _ = entry s t s.length t.length := by
      rw [rows, rowOf, List.range_succ, List.map_append]
      simp

end EditDistance

/-! ### The table -/

namespace Guarded

open EditDistance (entry)

abbrev Table := List (List Nat)

def cell? (table : Table) (i j : Nat) : Option Nat := do
  let row ← table[i]?
  row[j]?

def write? (table : Table) (i j value : Nat) : Option Table := do
  let row ← table[i]?
  if j < row.length then return table.set i (row.set j value) else none

/-- The character `back` places before place `i`. -/
def charBefore? (s : List Char) (i back : Nat) : Option Char := do
  s[← sub? i back]?

/-- Whether the last two characters before the places are the same the other way round. Each is
looked at only when the one before has matched. -/
def swapped? (s t : List Char) (i j : Nat) : Option Bool :=
  if 1 < i ∧ 1 < j then do
    if (← charBefore? s i 1) = (← charBefore? t j 2) then
      return (← charBefore? s i 2) = (← charBefore? t j 1)
    else return false
  else return false

def value? (s t : List Char) (table : Table) (i j : Nat) : Option Nat := do
  let cost := if (← charBefore? s i 1) = (← charBefore? t j 1) then 0 else 1
  let up ← cell? table (← sub? i 1) j
  let left ← cell? table i (← sub? j 1)
  let diagonal ← cell? table (← sub? i 1) (← sub? j 1)
  let edited := min (min (up + 1) (left + 1)) (diagonal + cost)
  if ← swapped? s t i j then
    let swapped ← cell? table (← sub? i 2) (← sub? j 2)
    return min edited (swapped + 1)
  else return edited

/-- The first cell of each row and then the first row are known from the start. -/
def edges? (s t : List Char) : Option Table := do
  let blank := List.replicate (s.length + 1) (List.replicate (t.length + 1) 0)
  let table ← (List.range (s.length + 1)).foldlM (fun table i => write? table i 0 i) blank
  (List.range (t.length + 1)).foldlM (fun table j => write? table 0 j j) table

def fillRow? (s t : List Char) (table : Table) (i : Nat) : Option Table :=
  (List.range' 1 t.length).foldlM
    (fun table j => do write? table i j (← value? s t table i j)) table

def distance? (s t : List Char) : Option Nat :=
  if s.length = 0 then some t.length
  else if t.length = 0 then some s.length
  else do
    let table ← (List.range' 1 s.length).foldlM (fillRow? s t) (← edges? s t)
    cell? table s.length t.length

/-- The table has a cell for all beginnings, and the cells in `done` hold their distance. -/
structure Filled (s t : List Char) (done : Nat → Nat → Prop) (table : Table) : Prop where
  rows : table.length = s.length + 1
  columns : ∀ row ∈ table, row.length = t.length + 1
  cell : ∀ i j, i ≤ s.length → j ≤ t.length → done i j → cell? table i j = some (entry s t i j)

variable {s t : List Char} {done done' : Nat → Nat → Prop} {table : Table}

theorem charBefore?_eq {i back : Nat} (h : back ≤ i) (inside : i - back < s.length) :
    charBefore? s i back = some s[i - back] := by
  rw [charBefore?, sub?_eq h]
  exact List.getElem?_eq_getElem inside

theorem swapped?_eq {i j : Nat} (hi : i < s.length) (hj : j < t.length) :
    swapped? s t (i + 1) (j + 1) =
      some (decide (0 < i ∧ 0 < j ∧ s[i]? = t[j - 1]? ∧ s[i - 1]? = t[j]?)) := by
  unfold swapped?
  by_cases deep : 0 < i ∧ 0 < j
  · rw [if_pos (by omega), charBefore?_eq (by omega) (by omega),
      charBefore?_eq (by omega) (by omega), charBefore?_eq (by omega) (by omega),
      charBefore?_eq (by omega) (by omega), List.getElem?_eq_getElem hi,
      List.getElem?_eq_getElem hj, List.getElem?_eq_getElem (show i - 1 < s.length by omega),
      List.getElem?_eq_getElem (show j - 1 < t.length by omega)]
    by_cases same : s[i] = t[j - 1] <;> simp [deep, same]
  · have short : ¬(0 < i ∧ 0 < j ∧ s[i]? = t[j - 1]? ∧ s[i - 1]? = t[j]?) :=
      fun all => deep ⟨all.1, all.2.1⟩
    rw [if_neg (by omega), decide_eq_false short]
    rfl

/-- A loop whose rounds keep what they are to keep comes to its end. -/
theorem foldlM_range'_keeps {σ : Type} (f : σ → Nat → Option σ) (I : Nat → σ → Prop)
    (first count : Nat) {start : σ} (init : I 0 start)
    (round : ∀ k x, k < count → I k x → ∃ y, f x (first + k) = some y ∧ I (k + 1) y) :
    ∃ x, (List.range' first count).foldlM f start = some x ∧ I count x := by
  induction count with
  | zero => exact ⟨start, rfl, init⟩
  | succ count ih =>
      obtain ⟨x, loop, hx⟩ := ih fun k x hk => round k x (by omega)
      obtain ⟨y, last, hy⟩ := round count x (by omega) hx
      refine ⟨y, ?_, hy⟩
      rw [List.range'_concat, List.foldlM_append, loop, Nat.one_mul]
      change List.foldlM f x [first + count] = some y
      rw [List.foldlM_cons, last]
      rfl

/-- Writing to a cell that is there changes no other. -/
theorem write?_eq {i j : Nat} (value : Nat) (hi : i < table.length) (hj : j < table[i].length) :
    ∃ table', write? table i j value = some table' ∧ table' = table.set i (table[i].set j value) ∧
      ∀ i' j', cell? table' i' j' =
        if i' = i ∧ j' = j then some value else cell? table i' j' := by
  refine ⟨_, ?_, rfl, fun i' j' => ?_⟩
  · rw [write?, List.getElem?_eq_getElem hi]
    exact if_pos hj
  · unfold cell?
    rw [List.getElem?_set]
    by_cases row : i = i'
    · subst row
      rw [if_pos rfl, if_pos hi, List.getElem?_eq_getElem hi]
      simp only [Option.bind_eq_bind, Option.bind_some, true_and]
      rw [List.getElem?_set]
      by_cases column : j = j'
      · subst column
        rw [if_pos rfl, if_pos hj, if_pos rfl]
      · rw [if_neg column, if_neg fun same => column same.symm]
    · rw [if_neg row, if_neg fun same => row same.1.symm]

namespace Filled

theorem imp (h : Filled s t done table)
    (more : ∀ i j, i ≤ s.length → j ≤ t.length → done' i j → done i j) :
    Filled s t done' table :=
  ⟨h.rows, h.columns, fun i j hi hj hd => h.cell i j hi hj (more i j hi hj hd)⟩

/-- A distance can be written to each cell. -/
theorem write (h : Filled s t done table) {i j : Nat} (hi : i ≤ s.length) (hj : j ≤ t.length) :
    ∃ table', write? table i j (entry s t i j) = some table' ∧
      Filled s t (fun i' j' => done i' j' ∨ i' = i ∧ j' = j) table' := by
  have inside : i < table.length := by
    rw [h.rows]
    omega
  have width := h.columns _ (List.getElem_mem inside)
  obtain ⟨table', written, same, cells⟩ :=
    write?_eq (j := j) (entry s t i j) inside (by omega)
  refine ⟨table', written, ?_, ?_, ?_⟩
  · rw [same, List.length_set, h.rows]
  · intro row hrow
    rw [same] at hrow
    rcases List.mem_or_eq_of_mem_set hrow with old | rfl
    · exact h.columns row old
    · rw [List.length_set, width]
  · intro i' j' hi' hj' known
    rw [cells]
    by_cases here : i' = i ∧ j' = j
    · rw [if_pos here, here.1, here.2]
    · rw [if_neg here]
      exact h.cell i' j' hi' hj' (known.resolve_right here)

/-- The value of a cell comes from cells above it and to its left. -/
theorem value (h : Filled s t done table) {i j : Nat} (hi : i < s.length) (hj : j < t.length)
    (known : ∀ i' j', i' ≤ i + 1 → j' ≤ j + 1 → i' + j' < i + j + 2 → done i' j') :
    value? s t table (i + 1) (j + 1) = some (entry s t (i + 1) (j + 1)) := by
  have cell (i' j' : Nat) (above : i' ≤ i + 1) (left : j' ≤ j + 1) (other : i' + j' < i + j + 2) :
      cell? table i' j' = some (entry s t i' j') :=
    h.cell i' j' (by omega) (by omega) (known i' j' above left other)
  have cost : (if s[i] = t[j] then 0 else 1) = if s[i]? = t[j]? then 0 else 1 := by
    rw [List.getElem?_eq_getElem hi, List.getElem?_eq_getElem hj]
    simp
  rw [value?, entry, swapped?_eq hi hj, charBefore?_eq (by omega) hi, charBefore?_eq (by omega) hj,
    sub?_eq (by omega), sub?_eq (by omega)]
  simp only [Option.bind_eq_bind, Option.bind_some, Nat.add_sub_cancel, decide_eq_true_eq]
  rw [cell i (j + 1) (by omega) (by omega) (by omega),
    cell (i + 1) j (by omega) (by omega) (by omega), cell i j (by omega) (by omega) (by omega),
    cost]
  simp only [Option.bind_some]
  split
  · rename_i swapped
    rw [sub?_eq (by omega), sub?_eq (by omega), Option.bind_some, Option.bind_some,
      cell _ _ (by omega) (by omega) (by omega)]
    rfl
  · rfl

end Filled

/-- The first column and then the first row. -/
theorem edges?_filled (s t : List Char) :
    ∃ table, edges? s t = some table ∧ Filled s t (fun i j => i = 0 ∨ j = 0) table := by
  have blank : Filled s t (fun i j => j = 0 ∧ i < 0)
      (List.replicate (s.length + 1) (List.replicate (t.length + 1) 0)) :=
    ⟨List.length_replicate, fun row hrow => by
      rw [List.eq_of_mem_replicate hrow, List.length_replicate], fun i j _ _ hd => by omega⟩
  rw [edges?, List.range_eq_range', List.range_eq_range']
  obtain ⟨column, first, hc⟩ := foldlM_range'_keeps (fun table i => write? table i 0 i)
    (fun k => Filled s t fun i j => j = 0 ∧ i < k) 0 (s.length + 1) blank
    fun k table hk filled => by
      obtain ⟨table', written, filled'⟩ := filled.write (i := k) (j := 0) (by omega) (by omega)
      rw [EditDistance.entry_zero_right] at written
      rw [Nat.zero_add]
      exact ⟨table', written, filled'.imp fun i j _ _ hd => by omega⟩
  rw [Option.bind_eq_bind, first, Option.bind_some]
  obtain ⟨table, second, ht⟩ := foldlM_range'_keeps (fun table j => write? table 0 j j)
    (fun k => Filled s t fun i j => j = 0 ∨ i = 0 ∧ j < k) 0 (t.length + 1)
    (hc.imp fun i j _ _ hd => by omega) fun k table hk filled => by
      obtain ⟨table', written, filled'⟩ := filled.write (i := 0) (j := k) (by omega) (by omega)
      rw [EditDistance.entry_zero_left] at written
      rw [Nat.zero_add]
      exact ⟨table', written, filled'.imp fun i j _ _ hd => by omega⟩
  exact ⟨table, second, ht.imp fun i j _ _ hd => by omega⟩

/-- A row, once those above it are filled. -/
theorem Filled.row {k : Nat} (h : Filled s t (fun i j => i ≤ k ∨ j = 0) table)
    (hk : k < s.length) : ∃ table', fillRow? s t table (k + 1) = some table' ∧
      Filled s t (fun i j => i ≤ k + 1 ∨ j = 0) table' := by
  obtain ⟨table', filled, h'⟩ := foldlM_range'_keeps
    (fun table j => do write? table (k + 1) j (← value? s t table (k + 1) j))
    (fun n => Filled s t fun i j => i ≤ k ∨ j = 0 ∨ i = k + 1 ∧ j ≤ n) 1 t.length
    (h.imp fun i j _ _ hd => by omega) fun n table hn filled => by
      obtain ⟨table', written, filled'⟩ := filled.write (i := k + 1) (j := n + 1) hk hn
      rw [Nat.add_comm 1 n, filled.value hk hn fun i j _ _ _ => by omega]
      exact ⟨table', written, filled'.imp fun i j _ _ hd => by omega⟩
  exact ⟨table', filled, h'.imp fun i j _ _ hd => by omega⟩

/-- The table is never left, and the distance is in its last cell. -/
theorem distance?_eq (s t : List Char) : distance? s t = some (EditDistance.distance s t) := by
  rw [EditDistance.distance_eq_entry, distance?]
  split
  · rename_i empty
    rw [empty, EditDistance.entry_zero_left]
  split
  · rename_i empty
    rw [empty, EditDistance.entry_zero_right]
  obtain ⟨edges, start, he⟩ := edges?_filled s t
  obtain ⟨table, filled, ht⟩ := foldlM_range'_keeps (fillRow? s t)
    (fun k => Filled s t fun i j => i ≤ k ∨ j = 0) 1 s.length
    (he.imp fun i j _ _ hd => by omega) fun k table hk filled => by
      rw [Nat.add_comm 1 k]
      exact filled.row hk
  rw [start, Option.bind_eq_bind, Option.bind_some, filled, Option.bind_some]
  exact ht.cell _ _ (Nat.le_refl _) (Nat.le_refl _) (.inl (Nat.le_refl _))

end Guarded

end PathQuery
