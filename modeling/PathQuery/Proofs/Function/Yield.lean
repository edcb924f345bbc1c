import PathQuery.Function.Registry

/-!
How many results a function gives. For most functions this does not depend on the values that they
are called on; the others follow their input in one way or another.
-/

namespace PathQuery

theorem Outcome.eq_ok_of_bind {α β : Type} {x : Outcome α} {f : α → Outcome β} {b : β}
    (h : (x >>= f) = .ok b) : ∃ a, x = .ok a ∧ f a = .ok b := by
  cases x with
  | ok a => exact ⟨a, rfl, h⟩
  | error e => cases h

/-- The results of a function: one value, a list, one value if there is any, or as many as the input
has values or elements. -/
inductive Yield where
  | one
  | many
  | atMostOne
  | perValue
  | perItem
deriving DecidableEq

def Builtin.yield : Builtin → Yield
  | length | sum | avg | min | max | contains => .one
  | keys | values | map | filter | reverse | sort | unique | flatten => .many
  | first | last => .atMostOne
  | typeNames => .perValue
  | matchesRegex => .perItem

/-- The sets that hold such results. -/
inductive Yield.Gives (input : ValueSet) : Yield → ValueSet → Prop
  | one (value : Json) : Gives input .one (.single value)
  | many (values : List Json) : Gives input .many (.many values)
  | atMostOne (value : Option Json) : Gives input .atMostOne (.optional value)
  | perValue {values : List Json} : values.length = input.values.length →
      Gives input .perValue ⟨values, input.definite⟩
  | perItem {values : List Json} : values.length = input.items.length →
      Gives input .perItem ⟨values, values.length == 1 && input.definite⟩

namespace Call

variable {c : Call} {set : ValueSet}

open Yield (Gives)

theorem one_of_bind {α : Type} {x : Outcome α} {f : α → Json}
    (h : (x >>= fun a => pure (.single (f a))) = .ok set) : Gives c.input .one set := by
  obtain ⟨a, -, h⟩ := Outcome.eq_ok_of_bind h
  cases h
  exact .one _

theorem many_of_bind {α : Type} {x : Outcome α} {f : α → List Json}
    (h : (x >>= fun a => pure (.many (f a))) = .ok set) : Gives c.input .many set := by
  obtain ⟨a, -, h⟩ := Outcome.eq_ok_of_bind h
  cases h
  exact .many _

theorem length_gives (h : c.length = .ok set) : Gives c.input .one set := by
  unfold length at h
  dsimp only at h
  split at h
  · split at h
    · split at h <;> exact one_of_bind h
    · exact one_of_bind h
  · exact one_of_bind h

theorem filter_gives (h : c.filter = .ok set) : Gives c.input .many set := by
  obtain ⟨arg, -, h⟩ := Outcome.eq_ok_of_bind h
  split at h
  · exact many_of_bind h
  · cases h

theorem extreme_gives {better : Ordering → Bool} (h : c.extreme better = .ok set) :
    Gives c.input .one set := by
  unfold extreme at h
  split at h
  · cases h
    exact .one _
  · exact one_of_bind h

theorem sort_gives (h : c.sort = .ok set) : Gives c.input .many set := by
  rw [sort] at h
  split at h
  · cases h
  · split at h
    · cases h
      exact .many _
    · cases h

theorem matchesRegex_gives (h : c.matchesRegex = .ok set) : Gives c.input .perItem set := by
  obtain ⟨pattern, -, h⟩ := Outcome.eq_ok_of_bind h
  split at h
  · split at h
    · cases h
      exact .perItem (List.length_map _)
    · cases h
  · cases h

end Call

theorem Builtin.run_gives (b : Builtin) {c : Call} {set : ValueSet} (h : b.run c = .ok set) :
    b.yield.Gives c.input set := by
  cases b with
  | length => exact Call.length_gives h
  | sum | avg | contains => exact Call.one_of_bind h
  | min | max => exact Call.extreme_gives h
  | keys | values | map => exact Call.many_of_bind h
  | filter => exact Call.filter_gives h
  | sort => exact Call.sort_gives h
  | reverse | unique | flatten =>
      cases h
      exact .many _
  | first | last =>
      cases h
      exact .atMostOne _
  | typeNames =>
      cases h
      exact .perValue (List.length_map _)
  | matchesRegex => exact Call.matchesRegex_gives h

theorem Registry.invoke_gives (r : Registry) {c : Call} {set : ValueSet}
    (h : r.invoke c = .ok set) :
    ∃ e, r.find? c.name = some e ∧ e.builtin.yield.Gives c.input set := by
  unfold Registry.invoke at h
  split at h
  · cases h
  · rename_i e found
    split at h
    · cases h
    · exact ⟨e, found, e.builtin.run_gives h⟩

end PathQuery
