import PathQuery.Proofs.Evaluation.Equations

/-!
Arrays opened by functions. Most functions work on the items of their input, and a definite array
has the same items as the set of its elements. So it makes no difference to them whether an array
comes whole or has been fanned out before, however many elements it has and whatever these are. The
functions `length` and `contains` look at the values of their input themselves and still find the
same.
-/

namespace PathQuery

/-! ### Functions -/

/-- The functions that take nothing from their input but its items. -/
def Builtin.worksOnItems : Builtin → Bool
  | length | typeNames | matchesRegex | contains => false
  | _ => true

section

variable {name : String} {args : List Argument}

theorem Builtin.run_of_items {b : Builtin} (hb : b.worksOnItems = true) {input input' : ValueSet}
    (h : input.items = input'.items) : b.run ⟨name, args, input⟩ = b.run ⟨name, args, input'⟩ := by
  cases b with
  | length | typeNames | matchesRegex | contains => cases hb
  | keys | values => simp only [run, Call.keys, Call.values, Call.members, h]
  | map | filter => simp only [run, Call.map, Call.filter, Call.argument, h]
  | sum | avg => simp only [run, Call.sum, Call.average, Call.numbers, h]
  | min | max => simp only [run, Call.min, Call.max, Call.extreme, h]
  | first | last => simp only [run, Call.first, Call.last, h]
  | reverse | sort | unique | flatten =>
      simp only [run, Call.reverse, Call.sort, Call.unique, Call.flatten, h]

namespace Call

/-- The number of elements, be they the elements of an array or values. -/
theorem length_opened (xs : List Json) :
    length ⟨name, args, .single (.array xs)⟩ = length ⟨name, args, .many xs⟩ := by
  match xs with
  | [] => rfl
  | [_] => rfl
  | _ :: _ :: _ => rfl

/-- In values that are not definite nothing is searched but the values. -/
theorem contains_many (xs : List Json) : contains ⟨name, args, .many xs⟩ = do
    let needle ← scalarArgument ⟨name, args, .many xs⟩
    return .single (.bool (xs.any fun item => Json.looseEq item needle)) := by
  unfold contains
  rw [ValueSet.items_many]
  refine bind_congr fun needle => ?_
  dsimp only [ValueSet.many]
  split <;> rfl

theorem contains_opened (xs : List Json)
    (same : scalarArgument ⟨name, args, .single (.array xs)⟩ =
      scalarArgument ⟨name, args, .many xs⟩) :
    contains ⟨name, args, .single (.array xs)⟩ = contains ⟨name, args, .many xs⟩ := by
  rw [contains_many, ← same]
  rfl

theorem scalarArgument_of_operand {input input' : ValueSet}
    (same : ∀ arg ∈ args.head?, arg.operand input = arg.operand input') :
    scalarArgument ⟨name, args, input⟩ = scalarArgument ⟨name, args, input'⟩ := by
  cases args with
  | nil => rfl
  | cons arg rest =>
      show (arg.operand input >>= _) = (arg.operand input' >>= _)
      rw [same arg rfl]

end Call

/-- All functions but two do the same with an array as with its elements, provided that `contains`
looks for the same. -/
theorem Builtin.run_opened {b : Builtin} (hb : b ≠ .typeNames ∧ b ≠ .matchesRegex) (xs : List Json)
    (same : b = .contains → ∀ arg ∈ args.head?,
      arg.operand (.single (.array xs)) = arg.operand (.many xs)) :
    b.run ⟨name, args, .single (.array xs)⟩ = b.run ⟨name, args, .many xs⟩ := by
  cases hi : b.worksOnItems with
  | true => exact run_of_items hi (by rw [ValueSet.items_array, ValueSet.items_many])
  | false =>
      cases b with
      | length => exact Call.length_opened xs
      | contains => exact Call.contains_opened xs (Call.scalarArgument_of_operand (same rfl))
      | typeNames => exact absurd rfl hb.1
      | matchesRegex => exact absurd rfl hb.2
      | _ => cases hi

end

/-! ### Arguments -/

/-- An operand that does not depend on the current values: a literal, or a path from the root. -/
inductive Node.Absolute : Node → Prop
  | literal (value : Json) : Absolute (.literal value)
  | fromRoot (position : Nat) (steps : List Step) : Absolute (.path (⟨.root, position⟩ :: steps))

theorem Scope.operand_of_absolute (s : Scope) {n : Node} (h : n.Absolute) (set set' : ValueSet) :
    s.operand n set = s.operand n set' := by
  cases h with
  | literal value => rw [operand, operand]
  | fromRoot position steps => rw [operand, operand, evalSteps_root, evalSteps_root]

/-- A function other than `type` and `matches` gives the same set of values or the same error for a
definite array as for the values of a set that is not definite. What `contains` looks for must not
depend on the input. -/
theorem Engine.invoke_opened (e : Engine) (base : Json) {name : String} {entry : FunctionEntry}
    (found : e.functions.find? name = some entry)
    (other : entry.builtin ≠ .typeNames ∧ entry.builtin ≠ .matchesRegex) {args : List Node}
    (absolute : entry.builtin = .contains → ∀ arg ∈ args.head?, arg.Absolute) (xs : List Json) :
    e.invoke name args base (.single (.array xs)) = e.invoke name args base (.many xs) := by
  have same : entry.builtin = .contains →
      ∀ arg ∈ (args.map ((e.scope base).argument name)).head?,
        arg.operand (.single (.array xs)) = arg.operand (.many xs) := by
    intro hc arg ha
    rw [List.head?_map] at ha
    obtain ⟨node, hn, rfl⟩ := Option.map_eq_some_iff.1 ha
    exact (e.scope base).operand_of_absolute (absolute hc node hn) _ _
  rw [invoke, invoke, Scope.evalArguments_eq_map, Registry.invoke, Registry.invoke]
  dsimp only
  rw [found]
  dsimp only
  rw [Builtin.run_opened other xs same]

/-- An array whose one element is a text: it is not searched for a part of that text. -/
theorem Engine.invoke_opened_text :
    let e := ofPolicy .standard
    let base : Json := .object [("part", .string "b")]
    let xs : List Json := [.string "abc"]
    let needle : Node := .path [⟨.root, 12⟩, ⟨.property "part", 14⟩]
    ∃ entry, e.functions.find? "contains" = some entry ∧
      (entry.builtin ≠ .typeNames ∧ entry.builtin ≠ .matchesRegex) ∧ needle.Absolute ∧
      e.invoke "contains" [needle] base (.single (.string "abc")) =
        .ok (.single (.bool true)) ∧
      e.invoke "contains" [needle] base (.many xs) = .ok (.single (.bool false)) ∧
      e.invoke "contains" [needle] base (.single (.array xs)) = .ok (.single (.bool false)) := by
  intro e base xs needle
  have absolute : needle.Absolute := .fromRoot 12 [⟨.property "part", 14⟩]
  have other : (.contains : Builtin) ≠ .typeNames ∧ (.contains : Builtin) ≠ .matchesRegex := by
    decide
  refine ⟨_, rfl, other, absolute, rfl, rfl, ?_⟩
  rw [invoke_opened e base rfl other (fun _ arg ha => ?_) xs]
  · rfl
  · cases ha
    exact absolute

end PathQuery
