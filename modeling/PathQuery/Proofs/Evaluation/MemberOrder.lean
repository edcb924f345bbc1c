import PathQuery.Proofs.Evaluation.Equations
import PathQuery.Proofs.Evaluation.Levels
import PathQuery.Proofs.Function.MemberOrder

/-!
The order of members does not show. On two documents that differ in it, an evaluation that lists no
members ends alike: whatever the fallback and the way in which names are matched, it fails with the
same error, or gives outputs that differ in the order of members.
-/

namespace PathQuery

open Outcome (Alike)
open Json (ReorderedAll)

/-- A step that lists the members of objects, in their order. -/
def Node.listsMembers : Node → Bool
  | .wildcard => true
  | .call name _ => name == "keys" || name == "values"
  | _ => false

/-- No step, at any depth, lists members. -/
def Query.ListsNoMembers (q : Query) : Prop :=
  ∀ s ∈ q.allSteps, s.node.listsMembers = false

instance (q : Query) : Decidable q.ListsNoMembers :=
  inferInstanceAs (Decidable (∀ s ∈ q.allSteps, s.node.listsMembers = false))

/-- Neither an alias nor an alternate query lists members. -/
structure Policy.ListsNoMembers (p : Policy) : Prop where
  target {name : String} {target : Query} (h : p.target? name = some target) :
    target.ListsNoMembers
  alternate {keys : List String} {queries : List Query} {last : LastResort} {q : Query}
    (h : p.fallback = .infer keys queries last) (hq : q ∈ queries) : q.ListsNoMembers

theorem Comparator.apply_reordered (op : Comparator) {x x' y y' : Json} (hx : x.Reordered x')
    (hy : y.Reordered y') : op.apply x y = op.apply x' y' := by
  unfold Comparator.apply
  rw [Json.looseEq_reordered x hx hy, Json.compareOrdered_reordered hx hy, hx.kind, hy.kind]

/-! ### Steps that do not resolve -/

namespace Scope

/-- Two evaluations under one policy whose documents differ in the order of members, and which end
alike on the paths of the policy. -/
structure Reordered (s t : Scope) : Prop where
  policy : s.policy = t.policy
  functions : s.functions = .standard
  functions' : t.functions = .standard
  strict : s.strict = t.strict
  base : s.base.Reordered t.base
  enter : ∀ {name target}, t.policy.target? name = some target →
    Alike ValueSet.Reordered (s.enter s.strict target.steps) (t.enter t.strict target.steps)
  alternate : ∀ {keys queries last}, t.fallback = .infer keys queries last →
    ∀ q ∈ queries, Alike ValueSet.Reordered (s.enter true q.steps) (t.enter true q.steps)

namespace Reordered

variable {s t : Scope}

theorem alternateQuery? {queries : List Query}
    (h : ∀ q ∈ queries, Alike ValueSet.Reordered (s.enter true q.steps) (t.enter true q.steps)) :
    Alike (Option.Rel ReorderedAll) (s.alternateQuery? queries) (t.alternateQuery? queries) := by
  induction queries with
  | nil => exact .ok .none
  | cons q rest ih =>
      have others := ih fun q' hq => h q' (by simp [hq])
      have first := h q (by simp)
      unfold Scope.alternateQuery?
      generalize s.enter true q.steps = x, t.enter true q.steps = y at first
      cases first with
      | @ok set set' hset =>
          dsimp only
          rw [ReorderedAll.isEmpty hset.values]
          split
          · exact others
          · exact .ok (.some hset.values)
      | error h =>
          -- both queries are passed over, or neither is
          cases h with
          | circular | disorder _ => exact .error _
          | error e =>
              cases e with
              | pathNotFound _ _ => exact others
              | _ => exact .error _

theorem alternateMember? (h : s.Reordered t) (step : Step) (key : Option String) {v v' : Json}
    (hv : v.Reordered v') (keys : List String) : Option.Rel Json.Reordered
      (s.alternateMember? ⟨step, key, v⟩ keys) (t.alternateMember? ⟨step, key, v'⟩ keys) := by
  unfold Scope.alternateMember?
  rw [h.policy]
  cases key with
  | none => exact .none
  | some _ =>
      have whole := hv
      cases hv with
      | object _ _ _ => exact Lookup.rel_findSome? (Lookup.member?_reordered _ whole) keys
      | _ => exact .none

theorem recover (h : s.Reordered t) (step : Step) (key : Option String) {v v' : Json}
    (hv : v.Reordered v') :
    Alike ReorderedAll (s.recover ⟨step, key, v⟩) (t.recover ⟨step, key, v'⟩) := by
  have last (resort : LastResort) : Alike ReorderedAll (lastResort ⟨step, key, v⟩ resort)
      (lastResort ⟨step, key, v'⟩ resort) := by
    cases resort with
    | substitute value => exact .ok (.cons (.refl value) .nil)
    | fail => exact .error _
    | skip => exact .ok .nil
  have fallback : s.fallback = t.fallback := by
    rw [Scope.fallback, Scope.fallback, h.policy, h.strict]
  unfold Scope.recover
  rw [fallback]
  split
  · exact last _
  · rename_i keys queries resort infer
    have found := h.alternateMember? step key hv keys
    generalize s.alternateMember? ⟨step, key, v⟩ keys = m,
      t.alternateMember? ⟨step, key, v'⟩ keys = m' at found
    cases found with
    | some hm => exact .ok (.cons hm .nil)
    | none =>
        refine (alternateQuery? (h.alternate infer)).bind fun vs vs' hvs => ?_
        cases hvs with
        | some hvs => exact .ok hvs
        | none => exact last _

/-! ### Path steps -/

theorem member (h : s.Reordered t) (step : Step) (name : String) {v v' : Json}
    (hv : v.Reordered v') :
    Alike ReorderedAll (s.member step name v) (t.member step name v') := by
  unfold Scope.member
  rw [h.policy]
  have whole := hv
  cases hv with
  | @object ms ns _ _ _ _ =>
      have found := Lookup.member?_reordered t.policy.fuzzy whole name
      dsimp only
      generalize Lookup.member? t.policy.fuzzy ms name = m,
        Lookup.member? t.policy.fuzzy ns name = m' at found
      cases found with
      | some hm => exact .ok (.cons hm .nil)
      | none => exact h.recover _ _ whole
  | _ => exact h.recover _ _ whole

theorem groupMember (h : s.Reordered t) (step : Step) {v v' : Json} (hv : v.Reordered v')
    (name : String) :
    Alike ReorderedAll (s.groupMember step v name) (t.groupMember step v' name) := by
  unfold Scope.groupMember
  rw [h.policy]
  split
  · rename_i ht
    exact (h.enter ht).bind fun _ _ hset => .ok hset.values
  · exact h.member step name hv

theorem select (h : s.Reordered t) {step : Step} (hn : step.node.listsMembers = false)
    {v v' : Json} (hv : v.Reordered v') :
    Alike ReorderedAll (s.select step v) (t.select step v') := by
  obtain ⟨node, position⟩ := step
  cases node with
  | property name => exact h.member _ name hv
  | wildcard => cases hn
  | multiKey names =>
      have each : Alike (List.Forall₂ ReorderedAll)
          (names.mapM (s.groupMember ⟨.multiKey names, position⟩ v))
          (names.mapM (t.groupMember ⟨.multiKey names, position⟩ v')) := by
        have same : List.Forall₂ Eq names names := List.forall₂_refl names
        refine Alike.mapM (fun name name' hn => ?_) same
        rw [hn]
        exact h.groupMember _ hv name'
      exact each.bind fun _ _ hs => .ok (List.rel_flatten hs)
  | index i =>
      have whole := hv
      cases hv with
      | @array xs ys hxs =>
          have found := Lookup.index?_reordered hxs i
          unfold Scope.select
          dsimp only
          generalize Lookup.index? xs i = m, Lookup.index? ys i = m' at found
          cases found with
          | some hm => exact .ok (.cons hm .nil)
          | none => exact h.recover _ _ whole
      | _ => exact h.recover _ _ whole
  | slice bounds =>
      have whole := hv
      cases hv with
      | array hxs => exact .ok (Lookup.slice_reordered hxs bounds)
      | _ => exact h.recover _ _ whole
  | omission names =>
      have whole := hv
      cases hv with
      | object _ _ _ => exact .ok (.cons (Lookup.without_reordered whole names) .nil)
      | _ => exact h.recover _ _ whole
  | _ => exact h.recover _ _ hv

theorem applyStep (h : s.Reordered t) {step : Step} (hn : step.node.listsMembers = false)
    {set set' : ValueSet} (hset : set.Reordered set') :
    Alike ValueSet.Reordered (s.applyStep step set) (t.applyStep step set') := by
  have each : Alike (List.Forall₂ ReorderedAll) (set.values.mapM (s.select step))
      (set'.values.mapM (t.select step)) :=
    .mapM (fun _ _ hv => h.select hn hv) hset.values
  refine each.bind fun _ _ hs => .ok ⟨List.rel_flatten hs, ?_⟩
  rw [hset.definite]

/-! ### Trees -/

theorem scalarOf (node : Node) {set set' : ValueSet} (hset : set.Reordered set') :
    Alike (Option.Rel Json.Reordered) (scalarOf node set) (scalarOf node set') := by
  unfold PathQuery.scalarOf
  have values := hset.values
  generalize set.values = xs, set'.values = ys at values
  cases values with
  | nil => exact .ok .none
  | cons hx hrest =>
      cases hrest with
      | nil =>
          dsimp only
          rw [hx.isScalar, hx.kind]
          split
          · exact .ok (.some hx)
          · exact .error _
      | cons _ hrest =>
          -- the error tells how many values there are
          simp only [List.length_cons, hrest.length_eq]
          exact .error _

theorem compareOperands (op : Comparator) {x x' y y' : Option Json}
    (hx : Option.Rel Json.Reordered x x') (hy : Option.Rel Json.Reordered y y') :
    Alike Eq (compareOperands op x y) (compareOperands op x' y') := by
  cases hx with
  | none => exact .ok rfl
  | some hx =>
      cases hy with
      | none => exact .ok rfl
      | some hy =>
          unfold PathQuery.compareOperands
          dsimp only
          rw [Comparator.apply_reordered op hx hy]
          split
          · exact .ok rfl
          · exact .error _

mutual

/-- The induction is on the steps; each is applied to sets that differ in the order of members. -/
theorem evalSteps (h : s.Reordered t) (steps : List (Located Node))
    (hs : ∀ step ∈ Node.withInnerSteps steps, step.node.listsMembers = false)
    {set set' : ValueSet} (hset : set.Reordered set') :
    Alike ValueSet.Reordered (s.evalSteps steps set) (t.evalSteps steps set') := by
  match steps with
  | [] => exact .ok hset
  | ⟨node, position⟩ :: rest =>
      rw [Node.withInnerSteps, List.forall_mem_cons, List.forall_mem_append] at hs
      obtain ⟨here, inside, behind⟩ := hs
      rw [Scope.evalSteps, Scope.evalSteps]
      exact (evalStep h node here inside position hset).bind fun _ _ hset =>
        evalSteps h rest behind hset

theorem evalStep (h : s.Reordered t) (node : Node) (hn : node.listsMembers = false)
    (hi : ∀ step ∈ node.innerSteps, step.node.listsMembers = false) (position : Nat)
    {set set' : ValueSet} (hset : set.Reordered set') :
    Alike ValueSet.Reordered (s.evalStep node position set) (t.evalStep node position set') := by
  unfold Scope.evalStep
  match node with
  | .root => exact .ok (.single h.base)
  | .current => exact .ok hset
  | .call name args =>
      -- among the standard functions the name tells which list members
      rw [h.functions, h.functions']
      refine Registry.invoke_reordered ?_ ⟨rfl, evalArguments h name args hi, hset⟩
      simpa [Node.listsMembers] using hn
  | .comparison _ _ _ | .condition _ _ _ | .not _ | .literal _ | .path _ => exact .error _
  | .property _ | .index _ | .slice _ | .wildcard | .multiKey _ | .omission _ =>
      exact h.applyStep hn hset

theorem evalArguments (h : s.Reordered t) (name : String) (args : List Node)
    (hi : ∀ step ∈ Node.innerStepsOfAll args, step.node.listsMembers = false) :
    List.Forall₂ Argument.Reordered (s.evalArguments name args) (t.evalArguments name args) := by
  match args with
  | [] => exact .nil
  | arg :: rest =>
      rw [Node.innerStepsOfAll, List.forall_mem_append] at hi
      unfold Scope.evalArguments
      refine .cons ⟨rfl, fun set set' hset => ?_, fun _ _ => test h arg hi.1,
        fun _ _ => operand h arg hi.1⟩ (evalArguments h name rest hi.2)
      dsimp only
      split
      · refine (test h arg hi.1 hset).bind fun b _ hb => ?_
        subst hb
        exact .ok (.single (.bool b))
      · exact evalNested h name arg hi.1 hset

theorem evalNested (h : s.Reordered t) (name : String) (arg : Node)
    (hi : ∀ step ∈ arg.innerSteps, step.node.listsMembers = false)
    {set set' : ValueSet} (hset : set.Reordered set') :
    Alike ValueSet.Reordered (s.evalNested name arg set) (t.evalNested name arg set') := by
  unfold Scope.evalNested
  match arg with
  | .path steps => exact evalSteps h steps hi hset
  | .literal value => exact .ok (.single (.refl value))
  | .current => exact .ok hset
  | .root | .call _ _ | .comparison _ _ _ | .condition _ _ _ | .not _ | .property _ | .index _
  | .slice _ | .wildcard | .multiKey _ | .omission _ => exact .error _

theorem test (h : s.Reordered t) (node : Node)
    (hi : ∀ step ∈ node.innerSteps, step.node.listsMembers = false)
    {set set' : ValueSet} (hset : set.Reordered set') :
    Alike Eq (s.test node set) (t.test node set') := by
  unfold Scope.test
  match node with
  | .comparison op left right =>
      rw [Node.innerSteps, List.forall_mem_append] at hi
      exact (operand h left hi.1 hset).bind fun _ _ hl =>
        (operand h right hi.2 hset).bind fun _ _ hr => compareOperands op hl hr
  | .condition op left right =>
      rw [Node.innerSteps, List.forall_mem_append] at hi
      refine (test h left hi.1 hset).bind fun b _ hb => ?_
      subst hb
      split
      · exact .ok rfl
      · exact .ok rfl
      · exact test h right hi.2 hset
  | .not inner =>
      refine (test h inner hi hset).bind fun b _ hb => ?_
      subst hb
      exact .ok rfl
  | .literal _ | .current | .root | .call _ _ | .path _ | .property _ | .index _ | .slice _
  | .wildcard | .multiKey _ | .omission _ => exact .error _

theorem operand (h : s.Reordered t) (node : Node)
    (hi : ∀ step ∈ node.innerSteps, step.node.listsMembers = false)
    {set set' : ValueSet} (hset : set.Reordered set') :
    Alike (Option.Rel Json.Reordered) (s.operand node set) (t.operand node set') := by
  unfold Scope.operand
  match node with
  | .literal value => exact .ok (.some (.refl value))
  | .current => exact scalarOf .current hset
  | .path steps => exact (evalSteps h steps hi hset).bind fun _ _ hset => scalarOf _ hset
  | .root | .call _ _ | .comparison _ _ _ | .condition _ _ _ | .not _ | .property _ | .index _
  | .slice _ | .wildcard | .multiKey _ | .omission _ => exact .error _

end

end Reordered

end Scope

/-! ### Paths of the policy and whole queries -/

variable {p : Policy} {document document' : Json}

/-- The induction is on the levels. -/
theorem enterPath_reordered (hp : p.ListsNoMembers) (hd : document.Reordered document')
    (level : Nat) (strict : Bool) {q : Query} (hq : q.ListsNoMembers) :
    Alike ValueSet.Reordered (enterPath p .standard document level strict q.steps)
      (enterPath p .standard document' level strict q.steps) := by
  induction level generalizing strict q with
  | zero => exact .error _
  | succ level ih =>
      have scopes : Scope.Reordered (scopeAt p .standard document level strict)
          (scopeAt p .standard document' level strict) := {
        policy := rfl
        functions := rfl
        functions' := rfl
        strict := rfl
        base := hd
        enter := fun ht => ih strict (hp.target ht)
        alternate := fun infer q hq =>
          ih true (hp.alternate (Scope.policy_of_infer infer).1 hq) }
      exact scopes.evalSteps q.steps hq (.single hd)

/-- Outputs of one shape, whose values differ in the order of members. -/
inductive Output.Reordered : Output → Output → Prop
  | value {j j' : Json} : j.Reordered j' → Reordered (.value j) (.value j')
  | values {js js' : List Json} : ReorderedAll js js' → Reordered (.values js) (.values js')
  | bool (b : Bool) : Reordered (.bool b) (.bool b)

theorem Output.Reordered.ofValueSet {set set' : ValueSet} (h : set.Reordered set') :
    Output.Reordered (.ofValueSet set) (.ofValueSet set') := by
  unfold Output.ofValueSet
  rw [h.definite]
  have values := h.values
  generalize set.values = xs, set'.values = ys at values
  cases values with
  | nil => exact .values .nil
  | cons hx hrest =>
      cases hrest with
      | nil =>
          dsimp only
          split
          · exact .value hx
          · exact .values (.cons hx .nil)
      | cons hy hrest => exact .values (.cons hx (.cons hy hrest))

/-- Both parts of a query have their steps from it. -/
theorem Engine.forall_splitCondition {Q : Node → Prop} {steps path : List Step}
    {condition : Option Node} (hs : splitCondition steps = (path, condition))
    (h : ∀ s ∈ Node.withInnerSteps steps, Q s.node) :
    (∀ s ∈ Node.withInnerSteps path, Q s.node) ∧
      ∀ c ∈ condition, ∀ s ∈ c.innerSteps, Q s.node := by
  obtain ⟨inPath, inCondition⟩ := mem_of_splitCondition hs
  rw [Node.forall_withInnerSteps] at *
  refine ⟨fun r hr => h r (inPath r hr), fun c hc => ?_⟩
  obtain ⟨s, hm, rfl⟩ := inCondition c hc
  exact (h s hm).2

theorem Policy.ListsNoMembers.keeps (hp : p.ListsNoMembers) :
    p.Keeps fun n => n.listsMembers = false where
  expand n hn := by
    cases n with
    | call name args =>
        rw [Policy.expandNode]
        exact hn
    | wildcard => cases hn
    | _ => rfl
  target ht := hp.target ht

/-- On two documents that differ in the order of members, a query that lists no members, under a
policy whose paths list none, fails with the same error or gives outputs of one shape whose values
differ in the order of members. -/
theorem evalQuery_reordered (p : Policy) (q : Query) (document document' : Json) (strict : Bool)
    (hp : p.ListsNoMembers) (hq : q.ListsNoMembers) (hd : document.Reordered document') :
    Alike Output.Reordered ((Engine.mk p .standard strict).evalQuery q document)
      ((Engine.mk p .standard strict).evalQuery q document') := by
  have scopes : Scope.Reordered ((Engine.mk p .standard strict).scope document)
      ((Engine.mk p .standard strict).scope document') := {
    policy := rfl
    functions := rfl
    functions' := rfl
    strict := rfl
    base := hd
    enter := fun ht => enterPath_reordered hp hd _ strict (hp.target ht)
    alternate := fun infer q hq => enterPath_reordered hp hd _ true
      (hp.alternate (Scope.policy_of_infer infer).1 hq) }
  have expanded : ∀ s ∈ (p.expand q).allSteps, s.node.listsMembers = false :=
    hp.keeps.steps [] (by simp) q.steps hq
  unfold Engine.evalQuery
  cases hs : Engine.splitCondition (p.expand q).steps with
  | mk path condition =>
      obtain ⟨hpath, hc⟩ := Engine.forall_splitCondition (Q := (·.listsMembers = false)) hs expanded
      dsimp only
      refine (scopes.evalSteps path hpath (.single hd)).bind fun set set' hset => ?_
      cases condition with
      | none => exact .ok (.ofValueSet hset)
      | some c =>
          refine (scopes.test c (hc c rfl) hset).bind fun b _ hb => ?_
          subst hb
          exact .ok (.bool b)

/-- A misspelt name, found by its neighbour in one object and by an alternate query after all. -/
theorem evalQuery_reordered_fuzzy :
    let p : Policy := ⟨[⟨"u", ⟨[⟨.root, 0⟩, ⟨.property "users", 2⟩]⟩⟩],
      .infer ["nick"] [⟨[⟨.root, 0⟩, ⟨.property "all", 2⟩]⟩] .skip, ⟨true, 1, 1, false⟩⟩
    let q : Query := ⟨[⟨.root, 0⟩, ⟨.multiKey ["u"], 1⟩, ⟨.call "map"
      [.path [⟨.current, 8⟩, ⟨.property "nme", 10⟩]], 4⟩, ⟨.call "unique" [], 15⟩]⟩
    let x : Json := .string "x"
    let y : Json := .string "y"
    let document : Json := .object [("users", .array [.object [("name", x), ("nick", y)]]),
      ("all", .null)]
    let document' : Json := .object [("all", .null),
      ("users", .array [.object [("nick", y), ("name", x)]])]
    p.ListsNoMembers ∧ q.ListsNoMembers ∧ document.Reordered document' ∧
      Alike Output.Reordered ((Engine.mk p .standard false).evalQuery q document)
        ((Engine.mk p .standard false).evalQuery q document') := by
  intro p q x y document document'
  have hp : p.ListsNoMembers := {
    target := fun {name target} h => by
      obtain ⟨a, ha, rfl⟩ := Option.map_eq_some_iff.1 h
      obtain rfl := List.mem_singleton.1 (List.mem_of_find?_eq_some ha)
      decide
    alternate := fun h hq => by
      cases h
      obtain rfl := List.mem_singleton.1 hq
      decide }
  have hq : q.ListsNoMembers := by decide
  have user : Json.Reordered (.object [("name", x), ("nick", y)])
      (.object [("nick", y), ("name", x)]) := .of_perm (.swap _ _ _) (by decide)
  have shuffled : Json.Shuffled
      [("users", .array [.object [("nick", y), ("name", x)]]), ("all", .null)]
      [("all", .null), ("users", .array [.object [("nick", y), ("name", x)]])] :=
    ⟨.swap _ _ _, Json.lookup_perm (.swap _ _ _) (by decide)⟩
  have hd : document.Reordered document' := by
    refine .object ?_ ?_ shuffled
    · rfl
    · exact .cons (.array (.cons user .nil)) (.cons .null .nil)
  exact ⟨hp, hq, hd, evalQuery_reordered p q document document' false hp hq hd⟩

end PathQuery
