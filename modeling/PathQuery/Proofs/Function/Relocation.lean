import PathQuery.Proofs.Evaluation.Errors
import PathQuery.Proofs.Query.Relocation

/-!
No function looks at a position. Moving the positions in the arguments of a call moves those in the
error that the call fails with, and changes nothing else.
-/

namespace PathQuery

variable (f : Nat → Nat)

/-! ### Moving positions -/

@[simp] theorem Node.isCondition_relocate (n : Node) :
    (n.relocate f).isCondition = n.isCondition := by
  cases n <;> rfl

def Mismatch.relocate : Mismatch → Mismatch
  | .notCondition node => .notCondition (node.relocate f)
  | .notOperand node => .notOperand (node.relocate f)
  | .manyValues node count => .manyValues (node.relocate f) count
  | .notScalar node kind => .notScalar (node.relocate f) kind
  | .notStep node => .notStep (node.relocate f)
  | .notArgument function node => .notArgument function (node.relocate f)
  | .emptyArgument function node => .emptyArgument function (node.relocate f)
  | .filterCondition node => .filterCondition (node.relocate f)
  | m => m

def QueryError.relocate : QueryError → QueryError
  | .syntaxError e => .syntaxError (e.relocate f)
  | .pathNotFound missing position => .pathNotFound (missing.relocate f) (f position)
  | .typeMismatch m => .typeMismatch (m.relocate f)
  | e => e

def Halt.relocate : Halt → Halt
  | .error e => .error (e.relocate f)
  | .circular => .circular
  | .disorder items => .disorder items

theorem Mismatch.relocate_ofValues {m : Mismatch} (h : m.ofValues = true) : m.relocate f = m := by
  cases m <;> first | rfl | cases h

/-! ### Outcomes -/

/-- The second computation gives what the first gives, or halts as it does at moved positions. -/
inductive Outcome.Moved {α : Type} : Outcome α → Outcome α → Prop
  | ok (a : α) : Moved (.ok a) (.ok a)
  | error (h : Halt) : Moved (.error h) (.error (h.relocate f))

namespace Outcome.Moved

variable {f} {α β : Type}

/-- Computations that halt for reasons without positions. -/
theorem of_haltsIn {x : Outcome α} (h : HaltsIn (fun halt => halt.relocate f = halt) x) :
    Moved f x x := by
  cases x with
  | ok a => exact .ok a
  | error halt =>
      have moved : Moved f (.error halt : Outcome α) _ := .error halt
      rwa [h halt rfl] at moved

theorem bind {x y : Outcome α} {g k : α → Outcome β} (h : Moved f x y)
    (hg : ∀ a, Moved f (g a) (k a)) : Moved f (x >>= g) (y >>= k) := by
  cases h with
  | ok a => exact hg a
  | error halt => exact .error halt

theorem mapM {g k : α → Outcome β} (hg : ∀ a, Moved f (g a) (k a)) (xs : List α) :
    Moved f (xs.mapM g) (xs.mapM k) := by
  induction xs with
  | nil => exact .ok _
  | cons x xs ih =>
      rw [List.mapM_cons, List.mapM_cons]
      exact (hg x).bind fun _ => ih.bind fun _ => .ok _

theorem filterM {g k : α → Outcome Bool} (hg : ∀ a, Moved f (g a) (k a)) (xs : List α) :
    Moved f (xs.filterM g) (xs.filterM k) := by
  have kept (ys : List α) : Moved f (xs.filterAuxM g ys) (xs.filterAuxM k ys) := by
    induction xs generalizing ys with
    | nil => exact .ok _
    | cons x xs ih => exact (hg x).bind fun b => ih (cond b (x :: ys) ys)
  exact (kept []).bind fun _ => .ok _

end Outcome.Moved

open Outcome (Moved)

/-! ### Functions -/

variable {f}

/-- Mismatches of values have no position. -/
theorem Halt.relocate_ofValues (m : Mismatch) (h : m.ofValues = true) :
    (Halt.error (.typeMismatch m)).relocate f = .error (.typeMismatch m) := by
  rw [Halt.relocate, QueryError.relocate, Mismatch.relocate_ofValues f h]

theorem Outcome.moved_ofValues {α : Type} {m : Mismatch} (h : m.ofValues = true) :
    Moved f (.mismatch m : Outcome α) (.mismatch m) :=
  .of_haltsIn (Outcome.haltsIn_ofValues Halt.relocate_ofValues h)

theorem scalarOf_moved (node : Node) (set : ValueSet) :
    Moved f (scalarOf node set) (scalarOf (node.relocate f) set) := by
  unfold scalarOf
  split
  · exact .ok _
  · split
    · exact .ok _
    · exact .error _
  · exact .error _

theorem compareOperands_moved (op : Comparator) (left right : Option Json) :
    Moved f (compareOperands op left right) (compareOperands op left right) :=
  .of_haltsIn (compareOperands_haltsIn Halt.relocate_ofValues op left right)

/-- The second argument is the first with its positions moved, and means the same. -/
structure Argument.Moved (f : Nat → Nat) (a b : Argument) : Prop where
  node : b.node = a.node.relocate f
  evaluate : ∀ set, Outcome.Moved f (a.evaluate set) (b.evaluate set)
  holds : ∀ set, Outcome.Moved f (a.holds set) (b.holds set)
  operand : ∀ set, Outcome.Moved f (a.operand set) (b.operand set)

namespace Call

variable {name : String} {args args' : List Argument} {input : ValueSet}

theorem scalarArgument_moved (h : List.Forall₂ (Argument.Moved f) args args') :
    Moved f (scalarArgument ⟨name, args, input⟩) (scalarArgument ⟨name, args', input⟩) := by
  cases h with
  | nil => exact .error _
  | @cons a b _ _ hab _ =>
      change Moved f (a.operand input >>= _) (b.operand input >>= _)
      refine (hab.operand input).bind fun found => ?_
      cases found with
      | some value => exact .ok value
      | none =>
          simp only [hab.node]
          exact .error _

theorem map_moved (h : List.Forall₂ (Argument.Moved f) args args') :
    Moved f (map ⟨name, args, input⟩) (map ⟨name, args', input⟩) := by
  refine Moved.bind (.mapM (fun item => ?_) _) fun _ => .ok _
  cases h with
  | nil => exact .error _
  | cons hab _ => exact hab.evaluate (.single item)

theorem filter_moved (h : List.Forall₂ (Argument.Moved f) args args') :
    Moved f (filter ⟨name, args, input⟩) (filter ⟨name, args', input⟩) := by
  cases h with
  | nil => exact .error _
  | @cons a b _ _ hab _ =>
      change Moved f
        (if a.node.isCondition then _ else Outcome.mismatch (.filterCondition a.node))
        (if b.node.isCondition then _ else Outcome.mismatch (.filterCondition b.node))
      rw [hab.node, Node.isCondition_relocate]
      split
      · exact (Moved.filterM (fun item => hab.holds (.single item)) _).bind fun _ => .ok _
      · exact .error _

theorem matchesRegex_moved (h : List.Forall₂ (Argument.Moved f) args args') :
    Moved f (matchesRegex ⟨name, args, input⟩) (matchesRegex ⟨name, args', input⟩) := by
  refine (scalarArgument_moved h).bind fun pattern => ?_
  split
  · split
    · exact .ok _
    · exact Outcome.moved_ofValues rfl
  · exact Outcome.moved_ofValues rfl

end Call

/-- What does not look at an argument halts for reasons that have no position. -/
theorem Builtin.run_moved {name : String} {args args' : List Argument} {input : ValueSet}
    (h : List.Forall₂ (Argument.Moved f) args args') (b : Builtin) :
    Moved f (b.run ⟨name, args, input⟩) (b.run ⟨name, args', input⟩) := by
  cases b with
  | map => exact Call.map_moved h
  | filter => exact Call.filter_moved h
  | matchesRegex => exact Call.matchesRegex_moved h
  | contains => exact (Call.scalarArgument_moved h).bind fun _ => .ok _
  | length => exact .of_haltsIn (Call.length_haltsIn Halt.relocate_ofValues)
  | keys | values =>
      have members : Moved f (Call.members ⟨name, args, input⟩) (Call.members ⟨name, args', input⟩) :=
        .of_haltsIn (Call.members_haltsIn Halt.relocate_ofValues)
      exact members.bind fun _ => .ok _
  | sum | avg =>
      have numbers : Moved f (Call.numbers ⟨name, args, input⟩) (Call.numbers ⟨name, args', input⟩) :=
        .of_haltsIn (Call.numbers_haltsIn Halt.relocate_ofValues)
      exact numbers.bind fun _ => .ok _
  | min | max => exact .of_haltsIn (Call.extreme_haltsIn Halt.relocate_ofValues _)
  | sort => exact .of_haltsIn (Call.sort_haltsIn Halt.relocate_ofValues fun _ _ => rfl)
  | first | last | reverse | unique | flatten | typeNames => exact .ok _

theorem Registry.invoke_moved {name : String} {args args' : List Argument} {input : ValueSet}
    (h : List.Forall₂ (Argument.Moved f) args args') (r : Registry) :
    Moved f (r.invoke ⟨name, args, input⟩) (r.invoke ⟨name, args', input⟩) := by
  unfold Registry.invoke
  dsimp only
  rw [h.length_eq]
  split
  · exact .error _
  · split
    · exact .error _
    · exact Builtin.run_moved h _

end PathQuery
