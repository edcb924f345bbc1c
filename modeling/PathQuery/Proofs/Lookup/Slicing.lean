import PathQuery.Proofs.Access.Element

/-!
What a slice selects. The bounds are moved into the array, each defaulting to the end of the array
that the direction of the step asks for; from the first place on every place a whole number of steps
away is taken, as long as it lies before the last. The places are integers of any size. The loop on
64-bit integers comes to its end and finds the same, without looking beyond the array.
-/

namespace PathQuery

namespace Slice

def stride (s : Slice) : Int :=
  s.step.getD 1

/-- The least and the greatest place that a bound can stand for. -/
def limits (s : Slice) (length : Int) : Int × Int :=
  if 0 < s.stride then (0, length) else (-1, length - 1)

/-- A negative bound counts from the end of the array. -/
def placeOf (s : Slice) (length bound : Int) : Int :=
  let place := if bound < 0 then length + bound else bound
  if place < (s.limits length).1 then (s.limits length).1
  else if (s.limits length).2 < place then (s.limits length).2
  else place

/-- The place of the first element taken, if any is. -/
def first (s : Slice) (length : Int) : Int :=
  match s.start with
  | some bound => s.placeOf length bound
  | none => if 0 < s.stride then 0 else length - 1

/-- The place that is not reached. -/
def last (s : Slice) (length : Int) : Int :=
  match s.stop with
  | some bound => s.placeOf length bound
  | none => if 0 < s.stride then length else -1

/-- The place after `k` steps. -/
def place (s : Slice) (length : Int) (k : Nat) : Int :=
  s.first length + k * s.stride

/-- Whether a place lies before the last in the direction of the steps. -/
def Before (s : Slice) (length place : Int) : Prop :=
  if 0 < s.stride then place < s.last length else s.last length < place

/-- The values are the elements at the places from the first on that lie before the last, one for
each place. -/
structure Selects (s : Slice) (items values : List Json) : Prop where
  count : ∀ k, k < values.length ↔ s.Before items.length (s.place items.length k)
  inside : ∀ k < values.length, 0 ≤ s.place items.length k ∧ s.place items.length k < items.length
  value : ∀ k < values.length, values[k]? = items[(s.place items.length k).toNat]?

variable {s : Slice} {length : Int}

theorem stride_ne_zero (hs : s.Formed) : s.stride ≠ 0 := by
  obtain ⟨-, -, -, step⟩ := hs
  unfold stride
  cases h : s.step with
  | none => decide
  | some n =>
      rintro rfl
      exact step h

theorem limits_up (up : 0 < s.stride) : s.limits length = (0, length) :=
  if_pos up

theorem limits_down (down : s.stride < 0) : s.limits length = (-1, length - 1) :=
  if_neg (Int.lt_asymm down)

theorem limits_le (hl : 0 ≤ length) : (s.limits length).1 ≤ (s.limits length).2 := by
  unfold limits
  split <;> dsimp only <;> omega

theorem placeOf_eq (hl : 0 ≤ length) (bound : Int) : s.placeOf length bound =
    Lookup.clampBound length (s.limits length).1 (s.limits length).2 bound := by
  have ends := s.limits_le hl
  unfold placeOf Lookup.clampBound
  rw [Int.add_comm bound length]
  dsimp only
  omega

theorem first_eq (hl : 0 ≤ length) : s.first length =
    (s.start.map (Lookup.clampBound length (s.limits length).1 (s.limits length).2)).getD
      (if 0 < s.stride then 0 else length - 1) := by
  unfold first
  cases s.start with
  | none => rfl
  | some bound => exact placeOf_eq hl bound

theorem last_eq (hl : 0 ≤ length) : s.last length =
    (s.stop.map (Lookup.clampBound length (s.limits length).1 (s.limits length).2)).getD
      (if 0 < s.stride then length else -1) := by
  unfold last
  cases s.stop with
  | none => rfl
  | some bound => exact placeOf_eq hl bound

theorem first_mem (hl : 0 ≤ length) :
    (s.limits length).1 ≤ s.first length ∧ s.first length ≤ (s.limits length).2 := by
  rw [first_eq hl]
  refine Guarded.clampBound_getD_mem (limits_le hl) ?_
  unfold limits
  split <;> dsimp only <;> omega

theorem last_mem (hl : 0 ≤ length) :
    (s.limits length).1 ≤ s.last length ∧ s.last length ≤ (s.limits length).2 := by
  rw [last_eq hl]
  refine Guarded.clampBound_getD_mem (limits_le hl) ?_
  unfold limits
  split <;> dsimp only <;> omega

/-- The places taken are places of the array. -/
theorem inside_of_before (hl : 0 ≤ length) {k : Nat} (h : s.Before length (s.place length k)) :
    0 ≤ s.place length k ∧ s.place length k < length := by
  have first := s.first_mem hl
  have last := s.last_mem hl
  unfold limits at first last
  unfold Before at h
  unfold place at h ⊢
  split at h
  · rename_i up
    rw [if_pos up] at first last
    have : 0 ≤ k * s.stride := Int.mul_nonneg (Int.natCast_nonneg k) (Int.le_of_lt up)
    omega
  · rename_i notUp
    rw [if_neg notUp] at first last
    have : k * s.stride ≤ 0 :=
      Int.mul_nonpos_of_nonneg_of_nonpos (Int.natCast_nonneg k) (Int.not_lt.1 notUp)
    omega

theorem slicePlaces_up (hl : 0 ≤ length) (up : 0 < s.stride) : Lookup.slicePlaces s length =
    Lookup.places (s.first length) s.stride
      ((s.last length - s.first length + s.stride - 1) / s.stride).toNat := by
  rw [first_eq hl, last_eq hl, limits_up up, if_pos up, if_pos up]
  exact if_pos up

theorem slicePlaces_down (hl : 0 ≤ length) (down : s.stride < 0) : Lookup.slicePlaces s length =
    Lookup.places (s.first length) s.stride
      ((s.first length - s.last length - s.stride - 1) / -s.stride).toNat := by
  have notUp := Int.lt_asymm down
  rw [first_eq hl, last_eq hl, limits_down down, if_neg notUp, if_neg notUp]
  exact (if_neg notUp).trans (if_pos down)

/-- The places come to an end, and their number is known in advance. -/
theorem exists_count (hs : s.Formed) (hl : 0 ≤ length) :
    ∃ count, Lookup.slicePlaces s length = Lookup.places (s.first length) s.stride count ∧
      ∀ k, k < count ↔ s.Before length (s.place length k) := by
  unfold Before place
  rcases Int.lt_trichotomy s.stride 0 with down | zero | up
  · refine ⟨_, slicePlaces_down hl down, fun k => ?_⟩
    rw [if_neg (Int.lt_asymm down), Guarded.lt_countDown_iff down]
  · exact absurd zero (stride_ne_zero hs)
  · refine ⟨_, slicePlaces_up hl up, fun k => ?_⟩
    rw [if_pos up, Guarded.lt_countUp_iff up]

/-! ### Elements -/

variable {items values values' : List Json}

/-- A slice selects one list. -/
theorem Selects.unique (h : s.Selects items values) (h' : s.Selects items values') :
    values = values' := by
  have same (k : Nat) : k < values.length ↔ k < values'.length :=
    (h.count k).trans (h'.count k).symm
  apply List.ext_getElem?
  intro k
  by_cases hk : k < values.length
  · rw [h.value k hk, h'.value k ((same k).1 hk)]
  · have hk' : ¬k < values'.length := fun more => hk ((same k).2 more)
    rw [List.getElem?_eq_none (Nat.not_lt.1 hk), List.getElem?_eq_none (Nat.not_lt.1 hk')]

theorem getElem?_places (start step : Int) (count k : Nat) (hk : k < count) :
    (Lookup.places start step count)[k]? = some (start + k * step) := by
  rw [Lookup.places, List.getElem?_map, List.getElem?_range hk, Option.map_some]

theorem selects_slice (hs : s.Formed) (items : List Json) :
    s.Selects items (Lookup.slice items s) := by
  have hl : (0 : Int) ≤ items.length := Int.natCast_nonneg _
  obtain ⟨count, places, before⟩ := exists_count hs hl
  have inside (k : Nat) (hk : k < count) := inside_of_before hl ((before k).1 hk)
  have taken (k : Nat) (hk : k < count) : items[(s.place items.length k).toNat]? =
      some (items[(s.place items.length k).toNat]?.getD .null) := by
    obtain ⟨value, -, found⟩ := Guarded.element?_eq (inside k hk).1 (inside k hk).2
    rw [found, Option.getD_some]
  -- as each place is one of the array, none is left out
  have selected : Lookup.slice items s =
      (Lookup.places (s.first items.length) s.stride count).map
        fun i => items[i.toNat]?.getD .null := by
    rw [Lookup.slice, places, List.filterMap_eq_map_iff_forall_eq_some]
    intro i hi
    obtain ⟨k, hk, rfl⟩ := List.mem_map.1 hi
    exact taken k (List.mem_range.1 hk)
  have number : (Lookup.slice items s).length = count := by
    rw [selected, List.length_map, Lookup.places, List.length_map, List.length_range]
  constructor <;> intro k <;> rw [number]
  · exact before k
  · exact inside k
  · intro hk
    rw [taken k hk, selected, List.getElem?_map, getElem?_places _ _ _ _ hk]
    rfl

/-- The loop on 64-bit integers ends after at most as many rounds as the array has elements, takes
none that is not there, and has then taken just those that the slice selects. -/
theorem slice_selects (short : items.length < 2 ^ 63) (hs : s.Formed) :
    Guarded.slice? items s = some (Lookup.slice items s) ∧
      ∀ values, s.Selects items values ↔ values = Lookup.slice items s := by
  refine ⟨Guarded.slice?_eq short hs, fun values => ⟨fun h => h.unique (selects_slice hs items), ?_⟩⟩
  rintro rfl
  exact selects_slice hs items

/-- Backwards from beyond the end, with a step that stops short of the first element. -/
theorem slice_selects_backwards :
    let items : List Json := [.null, .bool true, .bool false, .string "d"]
    let s : Slice := ⟨some (2 ^ 63 - 1), some (-4), some (-2)⟩
    items.length < 2 ^ 63 ∧ s.Formed ∧
      Guarded.slice? items s = some [.string "d", .bool true] ∧
      s.Selects items [.string "d", .bool true] := by
  intro items s
  have short : items.length < 2 ^ 63 := by decide
  have formed : s.Formed := ⟨by decide, by decide, by decide, by decide⟩
  have places : Lookup.slicePlaces s 4 = [3, 1] := by decide
  have taken : Lookup.slice items s = [.string "d", .bool true] := by
    rw [Lookup.slice, show (items.length : Int) = 4 from rfl, places]
    rfl
  obtain ⟨loop, selected⟩ := slice_selects short formed
  exact ⟨short, formed, loop.trans (congrArg some taken), (selected _).2 taken.symm⟩

end Slice

end PathQuery
