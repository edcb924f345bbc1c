import PathQuery.Proofs.Evaluation.Equations
import PathQuery.Proofs.Evaluation.Levels
import PathQuery.Proofs.Query.Steps

/-!
What an evaluation can halt with. Functions and comparisons raise errors of their own, steps that
miss raise those of the fallback, and paths of the policy those of their evaluation. A set of halts
that holds these holds whatever a formed tree can halt with: the main statement is
`Scope.HaltsIn.node`, by induction on the tree. Nodes out of place are never met on the way.
-/

namespace PathQuery

/-- Whatever the computation halts with is in `P`. -/
def Outcome.HaltsIn {α : Type} (P : Halt → Prop) (x : Outcome α) : Prop :=
  ∀ h, x = .error h → P h

namespace Outcome.HaltsIn

variable {α β : Type} {P : Halt → Prop}

theorem ok (a : α) : HaltsIn P (.ok a) := by
  rintro h ⟨⟩

theorem error {h : Halt} (hp : P h) : HaltsIn P (.error h : Outcome α) := by
  rintro _ ⟨⟩
  exact hp

theorem bind {x : Outcome α} {f : α → Outcome β} (hx : HaltsIn P x)
    (hf : ∀ a, x = .ok a → HaltsIn P (f a)) : HaltsIn P (x >>= f) := by
  cases x with
  | ok a => exact hf a rfl
  | error h => exact error (hx h rfl)

theorem mapM {f : α → Outcome β} {xs : List α} (hf : ∀ x ∈ xs, HaltsIn P (f x)) :
    HaltsIn P (xs.mapM f) := by
  induction xs with
  | nil => exact ok _
  | cons x xs ih =>
      rw [List.mapM_cons]
      exact (hf x (by simp)).bind fun _ _ =>
        (ih fun y hy => hf y (by simp [hy])).bind fun _ _ => ok _

theorem filterM {f : α → Outcome Bool} (hf : ∀ x, HaltsIn P (f x)) (xs : List α) :
    HaltsIn P (xs.filterM f) := by
  have kept (ys : List α) : HaltsIn P (xs.filterAuxM f ys) := by
    induction xs generalizing ys with
    | nil => exact ok _
    | cons x xs ih => exact (hf x).bind fun _ _ => ih _
  exact (kept []).bind fun _ _ => ok _

theorem foldlM {f : β → α → Outcome β} (hf : ∀ b x, HaltsIn P (f b x)) (b : β) (xs : List α) :
    HaltsIn P (xs.foldlM f b) := by
  induction xs generalizing b with
  | nil => exact ok _
  | cons x xs ih =>
      rw [List.foldlM_cons]
      exact (hf b x).bind fun _ _ => ih _

end Outcome.HaltsIn

open Outcome (HaltsIn)

/-- A node stands where its kind does not belong. -/
inductive Mismatch.Misplaced : Mismatch → Prop
  | step (n : Node) : Misplaced (.notStep n)
  | condition (n : Node) : Misplaced (.notCondition n)
  | argument (function : String) (n : Node) : Misplaced (.notArgument function n)

/-- The mismatch is one of values; it shows no node. -/
def Mismatch.ofValues : Mismatch → Bool
  | .unordered .. | .notObject .. | .notNumber .. | .incomparable .. | .noLength _ | .unsortable ..
  | .patternKind _ | .invalidPattern => true
  | _ => false

/-- The errors of functions and comparisons, and what sorting leaves open. -/
inductive Halt.Ordinary : Halt → Prop
  | mismatch {m : Mismatch} : ¬ m.Misplaced → Ordinary (.error (.typeMismatch m))
  | unknownFunction (name : String) : Ordinary (.error (.unknownFunction name))
  | arity (name : String) (least greatest got : Nat) :
      Ordinary (.error (.arity name least greatest got))
  | disorder {items : List Json} : ¬ Call.isSortable items → Ordinary (.disorder items)

theorem Halt.Ordinary.ofValues {m : Mismatch} (h : m.ofValues = true) :
    Ordinary (.error (.typeMismatch m)) := by
  refine .mismatch fun misplaced => ?_
  cases misplaced <;> cases h

/-! ### Functions -/

section

variable {α : Type} {P : Halt → Prop}

theorem Outcome.haltsIn_ofValues
    (values : ∀ m : Mismatch, m.ofValues = true → P (.error (.typeMismatch m))) {m : Mismatch}
    (hm : m.ofValues = true) : HaltsIn P (.mismatch m : Outcome α) :=
  .error (values m hm)

theorem compareOperands_haltsIn
    (values : ∀ m : Mismatch, m.ofValues = true → P (.error (.typeMismatch m))) (op : Comparator)
    (left right : Option Json) : HaltsIn P (compareOperands op left right) := by
  unfold compareOperands
  split
  · split
    · exact .ok _
    · rename_i m hm
      refine Outcome.haltsIn_ofValues values ?_
      -- values that have no order are the one error of an operator
      unfold Comparator.apply at hm
      split at hm
      · cases hm
      · cases hm
      · split at hm <;> cases hm
        rfl
  · exact .ok _

variable (ordinary : ∀ h, h.Ordinary → P h)

include ordinary

theorem Outcome.haltsIn_mismatch {m : Mismatch} (hm : ¬ m.Misplaced) :
    HaltsIn P (.mismatch m : Outcome α) :=
  .error (ordinary _ (.mismatch hm))

theorem scalarOf_haltsIn (node : Node) (set : ValueSet) : HaltsIn P (scalarOf node set) := by
  unfold scalarOf
  split
  · exact .ok _
  · split
    · exact .ok _
    · exact Outcome.haltsIn_mismatch ordinary (by rintro ⟨⟩)
  · exact Outcome.haltsIn_mismatch ordinary (by rintro ⟨⟩)

end

/-- Whatever an argument halts with is in `P`; as a condition it is asked only if it is one. -/
structure Argument.HaltsIn (P : Halt → Prop) (a : Argument) : Prop where
  evaluate : ∀ set, Outcome.HaltsIn P (a.evaluate set)
  holds : a.node.isCondition → ∀ set, Outcome.HaltsIn P (a.holds set)
  operand : ∀ set, Outcome.HaltsIn P (a.operand set)

namespace Call

variable {P : Halt → Prop} {c : Call}

section

variable (values : ∀ m : Mismatch, m.ofValues = true → P (.error (.typeMismatch m)))

include values

theorem members_haltsIn : HaltsIn P c.members := by
  refine HaltsIn.bind (.mapM fun item _ => ?_) fun _ _ => .ok _
  split
  · exact .ok _
  · exact Outcome.haltsIn_ofValues values rfl

theorem numbers_haltsIn : HaltsIn P c.numbers := by
  refine .mapM fun item _ => ?_
  split
  · exact .ok _
  · exact Outcome.haltsIn_ofValues values rfl

theorem length_haltsIn : HaltsIn P c.length := by
  unfold length
  dsimp only
  split
  · split
    · split
      · exact .ok _
      · exact .ok _
      · exact .ok _
      · exact .ok _
      · exact HaltsIn.bind (Outcome.haltsIn_ofValues values rfl) fun _ _ => .ok _
    · exact .ok _
  · exact .ok _

theorem extreme_haltsIn (better : Ordering → Bool) : HaltsIn P (c.extreme better) := by
  unfold extreme
  split
  · exact .ok _
  · refine HaltsIn.bind (.foldlM (fun best item => ?_) _ _) fun _ _ => .ok _
    split
    · exact .ok _
    · exact Outcome.haltsIn_ofValues values rfl

theorem sort_haltsIn (disorder : ∀ items, ¬ isSortable items → P (.disorder items)) :
    HaltsIn P c.sort := by
  rw [sort]
  split
  · exact Outcome.haltsIn_ofValues values rfl
  · split
    · exact .ok _
    · rename_i open_
      exact .error (disorder _ open_)

end

variable (ordinary : ∀ h, h.Ordinary → P h)

include ordinary

theorem argument_haltsIn : HaltsIn P c.argument := by
  unfold argument
  split
  · exact .ok _
  · exact .error (ordinary _ (.arity _ _ _ _))

omit ordinary in
theorem mem_of_argument {a : Argument} (h : c.argument = .ok a) : a ∈ c.args := by
  unfold argument at h
  split at h
  · rename_i he
    cases h
    rw [he]
    exact List.mem_cons_self
  · cases h

variable (args : ∀ a ∈ c.args, a.HaltsIn P)

include args

theorem scalarArgument_haltsIn : HaltsIn P c.scalarArgument := by
  refine (argument_haltsIn ordinary).bind fun arg ha => ?_
  refine ((args arg (mem_of_argument ha)).operand _).bind fun found _ => ?_
  split
  · exact .ok _
  · exact Outcome.haltsIn_mismatch ordinary (by rintro ⟨⟩)

theorem map_haltsIn : HaltsIn P c.map := by
  refine HaltsIn.bind (.mapM fun item _ => ?_) fun _ _ => .ok _
  exact (argument_haltsIn ordinary).bind fun arg ha => (args arg (mem_of_argument ha)).evaluate _

theorem filter_haltsIn : HaltsIn P c.filter := by
  refine (argument_haltsIn ordinary).bind fun arg ha => ?_
  split
  · rename_i hc
    exact (HaltsIn.filterM (fun item => (args arg (mem_of_argument ha)).holds hc _) _).bind
      fun _ _ => .ok _
  · exact Outcome.haltsIn_mismatch ordinary (by rintro ⟨⟩)

theorem matchesRegex_haltsIn : HaltsIn P c.matchesRegex := by
  refine (scalarArgument_haltsIn ordinary args).bind fun pattern _ => ?_
  split
  · split
    · exact .ok _
    · exact Outcome.haltsIn_mismatch ordinary (by rintro ⟨⟩)
  · exact Outcome.haltsIn_mismatch ordinary (by rintro ⟨⟩)

end Call

theorem Builtin.run_haltsIn {P : Halt → Prop} (ordinary : ∀ h, h.Ordinary → P h) {c : Call}
    (args : ∀ a ∈ c.args, a.HaltsIn P) (b : Builtin) : HaltsIn P (b.run c) := by
  have ofValues (m : Mismatch) (hm : m.ofValues = true) : P (.error (.typeMismatch m)) :=
    ordinary _ (.ofValues hm)
  cases b with
  | length => exact Call.length_haltsIn ofValues
  | keys | values => exact (Call.members_haltsIn ofValues).bind fun _ _ => .ok _
  | map => exact Call.map_haltsIn ordinary args
  | filter => exact Call.filter_haltsIn ordinary args
  | sum | avg => exact (Call.numbers_haltsIn ofValues).bind fun _ _ => .ok _
  | min | max => exact Call.extreme_haltsIn ofValues _
  | sort => exact Call.sort_haltsIn ofValues fun _ open_ => ordinary _ (.disorder open_)
  | matchesRegex => exact Call.matchesRegex_haltsIn ordinary args
  | contains => exact (Call.scalarArgument_haltsIn ordinary args).bind fun _ _ => .ok _
  | first | last | reverse | unique | flatten | typeNames => exact .ok _

theorem Registry.invoke_haltsIn {P : Halt → Prop} (ordinary : ∀ h, h.Ordinary → P h) {c : Call}
    (args : ∀ a ∈ c.args, a.HaltsIn P) (r : Registry) : HaltsIn P (r.invoke c) := by
  unfold Registry.invoke
  split
  · exact .error (ordinary _ (.unknownFunction _))
  · split
    · exact .error (ordinary _ (.arity _ _ _ _))
    · exact Builtin.run_haltsIn ordinary args _

/-! ### Steps that miss -/

/-- What is done with a miss in the end. -/
def Fallback.last : Fallback → LastResort
  | .plain last | .infer _ _ last => last

namespace Scope

/-- What an evaluation can halt with on a tree whose steps have positions in `S`, the aliases of `e`
being replaced before it is evaluated. -/
structure HaltsIn (s : Scope) (e : Policy) (S : Nat → Prop) (P : Halt → Prop) : Prop where
  ordinary : ∀ h, h.Ordinary → P h
  recover : ∀ m : Miss, S m.step.position → Outcome.HaltsIn P (s.recover m)
  enter : ∀ {name : String} {target : Query}, s.policy.target? name = some target →
    Outcome.HaltsIn P (s.enter s.strict target.steps)
  spliced : ∀ {n : Node} {target : Query} {position : Nat}, e.stepTarget? n = some target →
    S position → ∀ set, Outcome.HaltsIn P (s.evalSteps (target.stepsAt position) set)

variable {s : Scope} {e : Policy} {S : Nat → Prop} {P : Halt → Prop}

/-- Of what an alternate query halts with, only what is not passed over counts. -/
theorem alternateQuery?_haltsIn {queries : List Query}
    (enter : ∀ q ∈ queries, ∀ h, s.enter true q.steps = .error h → h.Fatal → P h) :
    Outcome.HaltsIn P (s.alternateQuery? queries) := by
  induction queries with
  | nil => exact .ok _
  | cons q rest ih =>
      have others := ih fun q' hq => enter q' (by simp [hq])
      unfold alternateQuery?
      split
      · split
        · exact others
        · exact .ok _
      · exact others
      · rename_i h passed he
        refine .error (enter q (by simp) h he fun n position hn => ?_)
        exact passed n position hn

theorem recover_haltsIn_of_last {m : Miss}
    (last : Outcome.HaltsIn P (lastResort m s.fallback.last))
    (enter : ∀ {keys : List String} {queries : List Query} {last : LastResort},
      s.fallback = .infer keys queries last →
        ∀ q ∈ queries, ∀ h, s.enter true q.steps = .error h → h.Fatal → P h) :
    Outcome.HaltsIn P (s.recover m) := by
  unfold recover
  split
  · rename_i plain
    rwa [plain] at last
  · rename_i infer
    rw [infer] at last
    split
    · exact .ok _
    · refine (alternateQuery?_haltsIn (enter infer)).bind fun found _ => ?_
      split
      · exact .ok _
      · exact last

theorem recover_haltsIn {m : Miss} (notFound : P (.error m.notFound))
    (enter : ∀ {keys : List String} {queries : List Query} {last : LastResort},
      s.fallback = .infer keys queries last →
        ∀ q ∈ queries, ∀ h, s.enter true q.steps = .error h → h.Fatal → P h) :
    Outcome.HaltsIn P (s.recover m) := by
  refine recover_haltsIn_of_last ?_ enter
  cases s.fallback.last with
  | substitute _ | skip => exact .ok _
  | fail => exact .error notFound

/-! ### Path steps -/

section

variable {step : Step} (recover : ∀ key value, Outcome.HaltsIn P (s.recover ⟨step, key, value⟩))

include recover

theorem member_haltsIn (name : String) (value : Json) :
    Outcome.HaltsIn P (s.member step name value) := by
  unfold Scope.member
  dsimp only
  split
  · exact .ok _
  · exact recover _ _

theorem groupMember_haltsIn {name : String} (enter : ∀ {target : Query},
      s.policy.target? name = some target → Outcome.HaltsIn P (s.enter s.strict target.steps))
    (value : Json) : Outcome.HaltsIn P (s.groupMember step value name) := by
  unfold Scope.groupMember
  split
  · rename_i ht
    exact (enter ht).bind fun _ _ => .ok _
  · exact member_haltsIn recover name value

/-- Of the aliases only those named by the step count. -/
theorem applyStep_haltsIn (enter : ∀ name ∈ step.node.groupNames, ∀ {target : Query},
      s.policy.target? name = some target → Outcome.HaltsIn P (s.enter s.strict target.steps))
    (set : ValueSet) : Outcome.HaltsIn P (s.applyStep step set) := by
  have selected (value : Json) : Outcome.HaltsIn P (s.select step value) := by
    unfold Scope.select
    split
    · exact member_haltsIn recover _ _
    · rename_i group
      rw [group] at enter
      exact Outcome.HaltsIn.bind
        (.mapM fun name hn => groupMember_haltsIn recover (enter name hn) _) fun _ _ => .ok _
    · split
      · exact .ok _
      · exact recover _ _
    · exact .ok _
    · exact .ok _
    · exact .ok _
    · exact recover _ _
  exact Outcome.HaltsIn.bind (.mapM fun value _ => selected value) fun _ _ => .ok _

end

theorem HaltsIn.applyStep (h : s.HaltsIn e S P) {step : Step} (hs : S step.position)
    (set : ValueSet) : Outcome.HaltsIn P (s.applyStep step set) :=
  applyStep_haltsIn (fun _ _ => h.recover _ hs) (fun _ _ _ ht => h.enter ht) set

/-! ### Trees -/

/-- Steps in a row, none of which is an alias. -/
theorem HaltsIn.plainSteps {steps : List Step}
    (each : ∀ step ∈ steps, ∀ set, Outcome.HaltsIn P (s.evalStep step.node step.position set))
    (set : ValueSet) : Outcome.HaltsIn P (s.evalSteps steps set) := by
  induction steps generalizing set with
  | nil =>
      rw [evalSteps]
      exact .ok _
  | cons step rest ih =>
      rw [evalSteps]
      exact (each step (by simp) set).bind fun set' _ =>
        ih (fun step' hs => each step' (by simp [hs])) set'

/-- What a node in its role can halt with, once its aliases are replaced. A step that is an alias
itself is left to the path it stands in. -/
def NodeHaltsIn (s : Scope) (e : Policy) (S : Nat → Prop) (P : Halt → Prop) : Role → Node → Prop
  | .step, n => e.stepTarget? n = none → ∀ position, S position → ∀ set,
      Outcome.HaltsIn P (s.evalStep (e.expandNode n) position set)
  | .operand, n => ∀ set, (∀ name, Outcome.HaltsIn P (s.evalNested name (e.expandNode n) set)) ∧
      Outcome.HaltsIn P (s.operand (e.expandNode n) set)
  | .condition, n => ∀ set, Outcome.HaltsIn P (s.test (e.expandNode n) set)
  | .argument, n => ∀ name, (s.argument name (e.expandNode n)).HaltsIn P

/-- A path goes on from its last alias, if it has one. -/
theorem HaltsIn.expandSteps (h : s.HaltsIn e S P) {anchor : Node}
    (ha : anchor = .root ∨ anchor = .current) (position : Nat) {steps : List Step}
    (hs : ∀ step ∈ steps, S step.position)
    (each : ∀ step ∈ steps, s.NodeHaltsIn e S P .step step.node) (set : ValueSet) :
    Outcome.HaltsIn P (s.evalSteps (e.expandSteps [] (⟨anchor, position⟩ :: steps)) set) := by
  have anchored : e.stepTarget? anchor = none ∧ e.expandNode anchor = anchor ∧
      ∀ set, Outcome.HaltsIn P (s.evalStep anchor position set) := by
    rcases ha with rfl | rfl
    · exact ⟨rfl, by rw [Policy.expandNode], fun set => by rw [evalStep]; exact .ok _⟩
    · exact ⟨rfl, by rw [Policy.expandNode], fun set => by rw [evalStep]; exact .ok _⟩
  have behind {rest : List Step} (sub : ∀ step ∈ rest, step ∈ steps)
      (plain : ∀ step ∈ rest, e.stepTarget? step.node = none) (set : ValueSet) :
      Outcome.HaltsIn P (s.evalSteps (rest.map e.expandStep) set) := by
    refine HaltsIn.plainSteps (fun step hm set => ?_) set
    obtain ⟨r, hr, rfl⟩ := List.mem_map.1 hm
    exact each r (sub r hr) (plain r hr) _ (hs r (sub r hr)) set
  rcases e.expandSteps_cases [] (⟨anchor, position⟩ :: steps) with plain | ⟨a, he⟩
  · -- without an alias every step stays behind the anchor
    rw [Policy.expandSteps_plain _ plain, List.nil_append, List.map_cons, Policy.expandStep,
      anchored.2.1, evalSteps]
    exact (anchored.2.2 set).bind fun set' _ =>
      behind (fun _ hm => hm) (fun step hm => plain step (by simp [hm])) set'
  · rw [he, evalSteps_append]
    -- the anchor is no alias, so the last alias is one of the steps
    have mem (step : Step) (hm : step ∈ a.step :: a.after) : step ∈ steps := by
      have heq := a.steps_eq
      cases hb : a.before with
      | nil =>
          rw [hb, List.nil_append, List.cons.injEq] at heq
          have named := a.named
          rw [← heq.1, anchored.1] at named
          cases named
      | cons b before =>
          rw [hb, List.cons_append, List.cons.injEq] at heq
          rw [heq.2]
          exact List.mem_append_right _ hm
    refine (h.spliced a.named (hs _ (mem _ (by simp))) set).bind fun set' _ => ?_
    exact behind (fun step hm => mem step (by simp [hm])) a.plain set'

theorem HaltsIn.path (h : s.HaltsIn e S P) {anchor : Node} (ha : anchor = .root ∨ anchor = .current)
    {position : Nat} {steps : List Step}
    (hs : ∀ step ∈ (Node.path (⟨anchor, position⟩ :: steps)).innerSteps, S step.position)
    (each : ∀ step ∈ steps, (∀ inner ∈ step.node.innerSteps, S inner.position) →
      s.NodeHaltsIn e S P .step step.node) :
    s.NodeHaltsIn e S P .operand (.path (⟨anchor, position⟩ :: steps)) := by
  intro set
  rw [Node.innerSteps] at hs
  have whole := h.expandSteps ha position
    (fun step hm => hs step (Node.mem_withInnerSteps (List.mem_cons_of_mem _ hm)))
    (fun step hm => each step hm fun inner hi =>
      hs inner (Node.mem_withInnerSteps_of_inner (List.mem_cons_of_mem _ hm) hi)) set
  rw [Policy.expandNode, operand]
  refine ⟨fun name => ?_, whole.bind fun _ _ => scalarOf_haltsIn h.ordinary _ _⟩
  rw [evalNested]
  exact whole

/-- The induction is on the tree, each role giving what the roles above it ask for. -/
theorem HaltsIn.node {named : String → Prop} (h : s.HaltsIn e S P) {role : Role} {n : Node}
    (hn : n.Formed named role) (hs : ∀ step ∈ n.innerSteps, S step.position) :
    s.NodeHaltsIn e S P role n := by
  induction hn with
  | property | index _ | slice _ | wildcard | multiKey _ | omission _ =>
      intro _ position hp set
      rw [Policy.expandNode, evalStep]
      exact h.applyStep hp set
  | @call name args _ _ ih =>
      intro _ position hp set
      rw [Policy.expandNode, Policy.expandNodes_eq_map, evalStep, evalArguments_eq_map]
      -- what the function is given stands for an argument of the query, expanded
      refine Registry.invoke_haltsIn h.ordinary (fun a ha => ?_) _
      obtain ⟨_, hm', rfl⟩ := List.mem_map.1 ha
      obtain ⟨arg, hm, rfl⟩ := List.mem_map.1 hm'
      refine ih arg hm (fun step hi => hs step ?_) name
      rw [Node.innerSteps, Node.innerStepsOfAll_eq_flatMap]
      exact List.mem_flatMap_of_mem hm hi
  | literal _ =>
      intro set
      rw [Policy.expandNode, operand]
      refine ⟨fun name => ?_, .ok _⟩
      rw [evalNested]
      exact .ok _
  | current =>
      intro set
      rw [Policy.expandNode, operand]
      refine ⟨fun name => ?_, scalarOf_haltsIn h.ordinary _ _⟩
      rw [evalNested]
      exact .ok _
  | fromRoot _ ih => exact h.path (.inl rfl) hs ih
  | fromCurrent _ _ ih => exact h.path (.inr rfl) hs ih
  | comparison _ _ left right =>
      intro set
      rw [Policy.expandNode, test]
      rw [Node.innerSteps, List.forall_mem_append] at hs
      refine (left hs.1 set).2.bind fun _ _ => ?_
      refine (right hs.2 set).2.bind fun _ _ => ?_
      exact compareOperands_haltsIn (fun _ hm => h.ordinary _ (.ofValues hm)) _ _ _
  | condition _ _ left right =>
      intro set
      rw [Policy.expandNode, test]
      rw [Node.innerSteps, List.forall_mem_append] at hs
      refine (left hs.1 set).bind fun _ _ => ?_
      split
      · exact .ok _
      · exact .ok _
      · exact right hs.2 set
  | not _ inner =>
      intro set
      rw [Policy.expandNode, test]
      rw [Node.innerSteps] at hs
      exact (inner hs set).bind fun _ _ => .ok _
  | @operandArgument arg ho ih =>
      intro name
      have operand := ih hs
      have plain : (e.expandNode arg).isCondition = false := by
        cases ho with
        | literal | current | fromRoot | fromCurrent => rw [Policy.expandNode]; rfl
      exact {
        evaluate := fun set => by
          rw [argument]
          dsimp only
          rw [plain, if_neg Bool.false_ne_true]
          exact (operand set).1 name
        -- functions ask an operand for no truth value
        holds := fun hc => by
          rw [argument] at hc
          dsimp only at hc
          rw [plain] at hc
          cases hc
        operand := fun set => (operand set).2 }
  | @conditionArgument arg hc ih =>
      intro name
      have condition := ih hs
      have truth : (e.expandNode arg).isCondition = true := by
        cases hc with
        | comparison | condition | not => rw [Policy.expandNode]; rfl
      exact {
        evaluate := fun set => by
          rw [argument]
          dsimp only
          rw [truth, if_pos rfl]
          exact (condition set).bind fun _ _ => .ok _
        holds := fun _ => condition
        operand := fun set => by
          rw [argument]
          dsimp only
          rw [operand_of_isCondition s truth]
          exact Outcome.haltsIn_mismatch h.ordinary (by rintro ⟨⟩) }

/-! ### Paths of the policy and whole queries -/

/-- A path from the root, as it is. -/
theorem HaltsIn.fromRoot {named : String → Prop} (h : s.HaltsIn .standard S P) (position : Nat)
    {steps : List Step} (formed : ∀ step ∈ steps, step.node.Formed named .step)
    (hs : ∀ step ∈ Node.withInnerSteps steps, S step.position) (set : ValueSet) :
    Outcome.HaltsIn P (s.evalSteps (⟨.root, position⟩ :: steps) set) := by
  have whole := h.expandSteps (.inl rfl) position
    (fun step hm => hs step (Node.mem_withInnerSteps hm))
    (fun step hm => h.node (formed step hm) fun inner hi =>
      hs inner (Node.mem_withInnerSteps_of_inner hm hi)) set
  rwa [Policy.expandSteps_standard, List.nil_append] at whole

/-- Where positions do not matter, a spliced path is one like any other. -/
theorem HaltsIn.of_standard {named : String → Prop}
    (h : s.HaltsIn .standard (fun _ => True) P) (he : e.Formed named) :
    s.HaltsIn e (fun _ => True) P where
  ordinary := h.ordinary
  recover := h.recover
  enter := h.enter
  spliced {_ _ position} ht _ set := by
    obtain ⟨rootPosition, path, hq, formed⟩ := he.stepTarget ht
    have moved : ∀ step ∈ path.map fun r => (⟨r.node, position⟩ : Step),
        step.node.Formed named .step := by
      intro step hm
      obtain ⟨r, hr, rfl⟩ := List.mem_map.1 hm
      exact formed r hr
    rw [Query.stepsAt, hq]
    exact h.fromRoot _ moved (fun _ _ => trivial) set

end Scope

variable {named : String → Prop} {S : Nat → Prop} {P : Halt → Prop}

theorem Engine.evalQuery_haltsIn {e : Engine} (he : e.policy.Formed named) {q : Query}
    (hq : q.Formed named) {document : Json} (h : (e.scope document).HaltsIn e.policy S P)
    (hs : ∀ step ∈ q.allSteps, S step.position) : HaltsIn P (e.evalQuery q document) := by
  cases hq with
  | @mk rootPosition position path condition formed hc =>
      have inPath {step : Step} (hm : step ∈ path) : step ∈ (⟨.root, rootPosition⟩ :: (path ++
          condition.toList.map (⟨·, position⟩)) : List Step) := by simp [hm]
      rw [Engine.evalQuery_formed e he _ _ formed hc]
      refine (h.expandSteps (.inl rfl) rootPosition
        (fun step hm => hs step (Node.mem_withInnerSteps (inPath hm)))
        (fun step hm => h.node (formed step hm) fun inner hi =>
          hs inner (Node.mem_withInnerSteps_of_inner (inPath hm) hi)) _).bind fun set _ => ?_
      cases condition with
      | none => exact .ok _
      | some c =>
          have whole := h.node (hc c rfl) (fun inner hi => hs inner
            (Node.mem_withInnerSteps_of_inner (s := ⟨c, position⟩) (by simp) hi)) set
          exact whole.bind fun _ _ => .ok _

end PathQuery
