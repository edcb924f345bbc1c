import Mathlib
import PathQuery.Lookup.Element
import PathQuery.Proofs.Json.NumberOrder
import PathQuery.Proofs.Query.Formed

/-!
Elements of arrays by the arithmetic of 64-bit integers. The functions here refuse, by giving
nothing, to leave the range of these integers, to take an element that is not there, to clamp a
bound between ends that are the wrong way round, and to go round a loop more often than the array
is long. On an array shorter than `2 ^ 63` they never refuse and give what the language selects.
-/

namespace PathQuery.Guarded

def int64? (n : Int) : Option Int :=
  if Number.fitsInt64 n then some n else none

/-- A difference of counts. -/
def sub? (m n : Nat) : Option Nat :=
  if n ≤ m then some (m - n) else none

def length? (items : List Json) : Option Int :=
  int64? items.length

/-- An element that has to be there. -/
def element? (items : List Json) (place : Int) : Option Json :=
  if place < 0 then none else items[place.toNat]?

/-- Nothing inside of an answer says that there is no such element. -/
def index? (items : List Json) (i : Int) : Option (Option Json) := do
  let length ← length? items
  let place ← if i < 0 then int64? (length + i) else pure i
  return if place < 0 then none else items[place.toNat]?

def saturatingAdd (m n : Int) : Int :=
  max Number.minInt64 (min (m + n) Number.maxInt64)

def clamp? (low high place : Int) : Option Int :=
  if low ≤ high then some (max low (min place high)) else none

def bound? (length low high bound : Int) : Option Int :=
  clamp? low high (if bound < 0 then saturatingAdd bound length else bound)

/-- The elements from `place` on, as long as the loop goes on there. A place beyond the 64-bit
integers ends it. -/
def walk? (items : List Json) (goesOn : Int → Bool) (step : Int) :
    (rounds : Nat) → (place : Int) → Option (List Json)
  | 0, place => if goesOn place then none else some []
  | rounds + 1, place =>
    if goesOn place then do
      let value ← element? items place
      match int64? (place + step) with
      | some next => return value :: (← walk? items goesOn step rounds next)
      | none => return [value]
    else some []

def slice? (items : List Json) (s : Slice) : Option (List Json) := do
  let length ← length? items
  let step := s.step.getD 1
  if 0 < step then
    let start ← (s.start.map (bound? length 0 length)).getD (some 0)
    let stop ← (s.stop.map (bound? length 0 length)).getD (some length)
    walk? items (· < stop) step items.length start
  else if step < 0 then
    let last ← int64? (length - 1)
    let start ← (s.start.map (bound? length (-1) last)).getD (some last)
    let stop ← (s.stop.map (bound? length (-1) last)).getD (some (-1))
    walk? items (stop < ·) step items.length start
  else return []

/-! ### Arithmetic -/

theorem int64?_eq {n : Int} (low : -2 ^ 63 ≤ n) (high : n < 2 ^ 63) : int64? n = some n :=
  if_pos (Number.fitsInt64_iff.2 ⟨low, high⟩)

theorem sub?_eq {m n : Nat} (h : n ≤ m) : sub? m n = some (m - n) :=
  if_pos h

theorem length?_eq {items : List Json} (short : items.length < 2 ^ 63) :
    length? items = some (items.length : Int) :=
  int64?_eq (by omega) (by omega)

theorem element?_eq {items : List Json} {place : Int} (low : 0 ≤ place)
    (high : place < items.length) : ∃ value, element? items place = some value ∧
      items[place.toNat]? = some value := by
  have inside : place.toNat < items.length := by omega
  refine ⟨items[place.toNat], ?_, List.getElem?_eq_getElem inside⟩
  rw [element?, if_neg (by omega), List.getElem?_eq_getElem inside]

/-- The length of the array is added to a negative number, so the sum stays in range. -/
theorem index?_eq {items : List Json} {i : Int} (short : items.length < 2 ^ 63)
    (hi : Number.fitsInt64 i) : index? items i = some (Lookup.index? items i) := by
  have range := Number.fitsInt64_iff.1 hi
  unfold index? Lookup.index?
  rw [length?_eq short, Option.bind_eq_bind, Option.bind_some]
  by_cases negative : i < 0
  · rw [if_pos negative, if_pos negative, int64?_eq (by omega) (by omega)]
    rfl
  · rw [if_neg negative, if_neg negative]
    rfl

/-! ### Bounds -/

theorem saturatingAdd_eq {length bound : Int} (hl : 0 ≤ length) (short : length < 2 ^ 63)
    (hb : Number.fitsInt64 bound) (negative : bound < 0) :
    saturatingAdd bound length = bound + length := by
  have range := Number.fitsInt64_iff.1 hb
  rw [saturatingAdd, Number.minInt64, Number.maxInt64]
  omega

theorem bound?_eq {length low high bound : Int} (hl : 0 ≤ length) (short : length < 2 ^ 63)
    (hb : Number.fitsInt64 bound) (ends : low ≤ high) :
    bound? length low high bound = some (Lookup.clampBound length low high bound) := by
  rw [bound?, clamp?, if_pos ends, Lookup.clampBound]
  by_cases negative : bound < 0
  · rw [if_pos negative, if_pos negative, saturatingAdd_eq hl short hb negative]
  · rw [if_neg negative, if_neg negative]

/-- A bound that may be left out, with what stands for it then. -/
theorem bound?_getD {length low high standard : Int} {bound : Option Int} (hl : 0 ≤ length)
    (short : length < 2 ^ 63) (hb : ∀ i ∈ bound, Number.fitsInt64 i) (ends : low ≤ high) :
    (bound.map (bound? length low high)).getD (some standard) =
      some ((bound.map (Lookup.clampBound length low high)).getD standard) := by
  cases bound with
  | none => rfl
  | some i => exact bound?_eq hl short (hb i rfl) ends

theorem clampBound_mem {length low high bound : Int} (ends : low ≤ high) :
    low ≤ Lookup.clampBound length low high bound ∧
      Lookup.clampBound length low high bound ≤ high := by
  rw [Lookup.clampBound]
  omega

theorem clampBound_getD_mem {length low high standard : Int} {bound : Option Int}
    (ends : low ≤ high) (hs : low ≤ standard ∧ standard ≤ high) :
    low ≤ (bound.map (Lookup.clampBound length low high)).getD standard ∧
      (bound.map (Lookup.clampBound length low high)).getD standard ≤ high := by
  cases bound with
  | none => exact hs
  | some i => exact clampBound_mem ends

/-! ### Loops -/

theorem places_succ (start step : Int) (count : Nat) :
    Lookup.places start step (count + 1) = start :: Lookup.places (start + step) step count := by
  rw [Lookup.places, Lookup.places, List.range_succ_eq_map, List.map_cons, List.map_map]
  congr 1
  · simp
  · apply List.map_congr_left
    intro k _
    simp only [Function.comp_apply, Nat.succ_eq_add_one]
    push_cast
    ring

theorem int64?_cases (n : Int) : int64? n = some n ∨ int64? n = none :=
  ite_eq_or_eq _ _ _

/-- One round of the loop, with what the rest of it finds. Where the next place cannot be told, the
rest has to be nothing. -/
theorem walk?_succ {items : List Json} {goesOn : Int → Bool} {step place : Int} {rounds : Nat}
    {values : List Json} (here : goesOn place = true) (low : 0 ≤ place)
    (high : place < items.length)
    (rest : walk? items goesOn step rounds (place + step) = some values)
    (last : int64? (place + step) = none → values = []) :
    ∃ value, items[place.toNat]? = some value ∧
      walk? items goesOn step (rounds + 1) place = some (value :: values) := by
  obtain ⟨value, taken, found⟩ := element?_eq low high
  refine ⟨value, found, ?_⟩
  rw [walk?, if_pos here, taken, Option.bind_eq_bind, Option.bind_some]
  rcases int64?_cases (place + step) with next | next
  · rw [next]
    dsimp only
    rw [rest]
    rfl
  · rw [next, last next]
    rfl

/-- The loop goes round `count` times, each time inside of the array. Only the last round can leave
the 64-bit integers, as the next place would be inside too. -/
theorem walk?_eq {items : List Json} (short : items.length < 2 ^ 63) {goesOn : Int → Bool}
    {step : Int} {count rounds : Nat} {start : Int} (enough : count ≤ rounds)
    (hc : ∀ k : Nat, goesOn (start + k * step) = true ↔ k < count)
    (inside : ∀ k : Nat, k < count → 0 ≤ start + k * step ∧ start + k * step < items.length) :
    walk? items goesOn step rounds start =
      some ((Lookup.places start step count).filterMap fun i => items[i.toNat]?) := by
  induction count generalizing rounds start with
  | zero =>
      have stops : goesOn start = false := by
        have := hc 0
        simpa using this
      cases rounds <;> simp [walk?, stops, Lookup.places]
  | succ count ih =>
      obtain ⟨rounds, rfl⟩ : ∃ n, rounds = n + 1 := ⟨rounds - 1, by omega⟩
      have here : goesOn start = true := by
        have := hc 0
        simpa using this
      have place := inside 0 (Nat.succ_pos count)
      rw [Nat.cast_zero, Int.zero_mul, Int.add_zero] at place
      have later (k : Nat) : start + step + k * step = start + (k + 1 : Nat) * step := by
        push_cast
        ring
      have rest : walk? items goesOn step rounds (start + step) =
          some ((Lookup.places (start + step) step count).filterMap fun i => items[i.toNat]?) := by
        apply ih (by omega)
        · intro k
          rw [later, hc]
          omega
        · intro k hk
          rw [later]
          exact inside (k + 1) (by omega)
      -- a next place in the array would be a 64-bit integer
      have last (next : int64? (start + step) = none) : count = 0 := by
        by_contra more
        have ahead := inside 1 (by omega)
        rw [Nat.cast_one, Int.one_mul] at ahead
        rw [int64?_eq (by omega) (by omega)] at next
        cases next
      obtain ⟨value, found, round⟩ := walk?_succ here place.1 place.2 rest fun next => by
        rw [last next]
        rfl
      rw [round, places_succ,
        List.filterMap_cons_some (f := fun i : Int => items[i.toNat]?) found]

/-- The number of steps that lead from `start` to before `stop`. -/
theorem lt_count_iff {step : Int} (hs : 0 < step) (distance : Int) (k : Nat) :
    k < ((distance + step - 1) / step).toNat ↔ k * step < distance := by
  rw [Int.lt_toNat, Int.lt_iff_add_one_le, Int.le_ediv_iff_mul_le hs, Int.add_mul, Int.one_mul]
  omega

theorem lt_countUp_iff {step : Int} (hs : 0 < step) (start stop : Int) (k : Nat) :
    k < ((stop - start + step - 1) / step).toNat ↔ start + k * step < stop := by
  rw [lt_count_iff hs]
  omega

theorem lt_countDown_iff {step : Int} (hs : step < 0) (start stop : Int) (k : Nat) :
    k < ((start - stop - step - 1) / -step).toNat ↔ stop < start + k * step := by
  have := lt_count_iff (Int.neg_pos_of_neg hs) (start - stop) k
  rw [← Int.sub_eq_add_neg, Int.mul_neg] at this
  rw [this]
  omega

theorem le_mul_step {step : Int} (hs : 0 < step) (k : Nat) : (k : Int) ≤ k * step := by
  have : (k : Int) * 1 ≤ k * step := Int.mul_le_mul_of_nonneg_left hs (Int.natCast_nonneg k)
  omega

theorem walk?_up {items : List Json} (short : items.length < 2 ^ 63) {start stop step : Int}
    (hs : 0 < step) (low : 0 ≤ start) (high : stop ≤ items.length) :
    walk? items (· < stop) step items.length start =
      some ((Lookup.places start step ((stop - start + step - 1) / step).toNat).filterMap
        fun i => items[i.toNat]?) := by
  have inside (k : Nat) (hk : k < ((stop - start + step - 1) / step).toNat) :
      0 ≤ start + k * step ∧ start + k * step < items.length := by
    have := (lt_countUp_iff hs start stop k).1 hk
    have : 0 ≤ k * step := Int.mul_nonneg (Int.natCast_nonneg k) (Int.le_of_lt hs)
    omega
  apply walk?_eq short
  · by_contra many
    have := inside items.length (by omega)
    have := le_mul_step hs items.length
    omega
  · intro k
    rw [decide_eq_true_eq, lt_countUp_iff hs]
  · exact inside

theorem walk?_down {items : List Json} (short : items.length < 2 ^ 63) {start stop step : Int}
    (hs : step < 0) (low : -1 ≤ stop) (high : start ≤ items.length - 1) :
    walk? items (stop < ·) step items.length start =
      some ((Lookup.places start step ((start - stop - step - 1) / -step).toNat).filterMap
        fun i => items[i.toNat]?) := by
  have inside (k : Nat) (hk : k < ((start - stop - step - 1) / -step).toNat) :
      0 ≤ start + k * step ∧ start + k * step < items.length := by
    have := (lt_countDown_iff hs start stop k).1 hk
    have : k * step ≤ 0 :=
      Int.mul_nonpos_of_nonneg_of_nonpos (Int.natCast_nonneg k) (Int.le_of_lt hs)
    omega
  apply walk?_eq short
  · by_contra many
    have := inside items.length (by omega)
    have := le_mul_step (Int.neg_pos_of_neg hs) items.length
    rw [Int.mul_neg] at this
    omega
  · intro k
    rw [decide_eq_true_eq, lt_countDown_iff hs]
  · exact inside

/-- The ends between which bounds are clamped are in order even for an empty array. -/
theorem slice?_eq {items : List Json} {s : Slice} (short : items.length < 2 ^ 63)
    (hs : s.Formed) : slice? items s = some (Lookup.slice items s) := by
  obtain ⟨start, stop, -, -⟩ := hs
  have length : (0 : Int) ≤ items.length := Int.natCast_nonneg _
  have high : (items.length : Int) < 2 ^ 63 := by omega
  unfold slice? Lookup.slice Lookup.slicePlaces
  rw [length?_eq short, Option.bind_eq_bind, Option.bind_some]
  dsimp only
  split
  · rename_i up
    rw [bound?_getD length high start length, bound?_getD length high stop length]
    exact walk?_up short up (clampBound_getD_mem length ⟨Int.le_refl 0, length⟩).1
      (clampBound_getD_mem length ⟨length, Int.le_refl _⟩).2
  split
  · rename_i down
    have ends : (-1 : Int) ≤ items.length - 1 := by omega
    rw [int64?_eq (by omega) (by omega), Option.bind_some]
    rw [bound?_getD length high start ends, bound?_getD length high stop ends]
    exact walk?_down short down (clampBound_getD_mem ends ⟨Int.le_refl _, ends⟩).1
      (clampBound_getD_mem ends ⟨ends, Int.le_refl _⟩).2
  · rfl

end PathQuery.Guarded
