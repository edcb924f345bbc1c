import PathQuery.Proofs.Config.Compiled
import PathQuery.Proofs.Evaluation.Definite
import PathQuery.Proofs.Evaluation.Depth
import PathQuery.Proofs.Evaluation.Equations

/-!
What kind of output a query gives. As long as a step that does not resolve ends the evaluation or is
replaced by one value, a path without the functions `first`, `last` and `matches` gives one value on
every document, or a list on every document: which it is can be read off its steps.
-/

namespace PathQuery

/-- One definite value, or an indefinite list of values. -/
inductive ValueSet.HasShape : Bool → ValueSet → Prop
  | one (value : Json) : HasShape true (.single value)
  | many (values : List Json) : HasShape false (.many values)

inductive Output.HasShape : Bool → Output → Prop
  | value (j : Json) : HasShape true (.value j)
  | values (js : List Json) : HasShape false (.values js)

theorem ValueSet.HasShape.output {d : Bool} {set : ValueSet} (h : set.HasShape d) :
    (Output.ofValueSet set).HasShape d := by
  cases h with
  | one value => exact .value value
  | many values =>
      unfold Output.ofValueSet
      split
      · exact .values _
      · exact .values _

/-! ### What can be read off the steps -/

/-- Whether results are definite, for values that are or are not. -/
def Yield.definite : Yield → Bool → Bool
  | one, _ => true
  | many, _ => false
  | _, d => d

/-- Whether values are definite behind a step, when those before it are or are not. -/
def Node.definite : Node → Bool → Bool
  | root, _ => true
  | call name _, d =>
    match Registry.standard.find? name with
    | some e => e.builtin.yield.definite d
    | none => d
  | n, d => d && !Scope.fansOut n

def definiteBehind (steps : List Step) (d : Bool) : Bool :=
  steps.foldl (fun d s => s.node.definite d) d

/-- Not a call of a function whose number of results depends on the values. -/
def Node.Steady : Node → Prop
  | call name _ => name ∉ ["first", "last", "matches"]
  | _ => True

/-- No such call is a step of the query; in the arguments of other calls there may be some. -/
def Query.Steady (q : Query) : Prop :=
  ∀ s ∈ q.steps, s.node.Steady

/-! ### Functions -/

def Yield.Steady (y : Yield) : Prop :=
  y ≠ .atMostOne ∧ y ≠ .perItem

instance (y : Yield) : Decidable y.Steady :=
  inferInstanceAs (Decidable (_ ∧ _))

theorem Yield.Gives.hasShape {y : Yield} (steady : y.Steady) {input set : ValueSet} {d : Bool}
    (hi : input.HasShape d) (h : y.Gives input set) : set.HasShape (y.definite d) := by
  cases h with
  | one value => exact .one value
  | many values => exact .many values
  | atMostOne => exact absurd rfl steady.1
  | perItem => exact absurd rfl steady.2
  | @perValue values length =>
      cases hi with
      | one _ =>
          obtain ⟨value, rfl⟩ := List.length_eq_one_iff.1 length
          exact .one value
      | many _ => exact .many values

/-- Every built-in function but three is steady. -/
theorem Registry.standard_steady {name : String} {e : FunctionEntry}
    (found : Registry.standard.find? name = some e) (steady : name ∉ ["first", "last", "matches"]) :
    e.builtin.yield.Steady := by
  have all : ∀ e ∈ Registry.standard.entries, e.name ∉ ["first", "last", "matches"] →
      e.builtin.yield.Steady := by
    decide
  have named : e.name = name := by simpa using List.find?_some found
  exact all e (List.mem_of_find?_eq_some found) (named ▸ steady)

/-! ### Steps -/

namespace Scope

variable {s : Scope} {set set' : ValueSet} {d : Bool}

/-- One value takes the place of a miss, if any does. -/
def ReplacesByOne (s : Scope) : Prop :=
  ∀ miss values, s.recover miss = .ok values → ∃ v, values = [v]

theorem applyStep_hasShape (one : s.ReplacesByOne) {step : Step} (hs : set.HasShape d)
    (h : s.applyStep step set = .ok set') : set'.HasShape (d && !fansOut step.node) := by
  obtain ⟨selected, hm, h⟩ := Outcome.eq_ok_of_bind h
  cases h
  cases hs with
  | many values => exact .many _
  | one value =>
      cases hf : fansOut step.node with
      | true => exact .many _
      | false =>
          obtain ⟨found, hv, hm⟩ := Outcome.eq_ok_of_bind hm
          cases hm
          obtain ⟨v, rfl⟩ := select_keeps (fun v => ⟨v, rfl⟩) one hf hv
          exact .one v

variable (one : s.ReplacesByOne) (functions : s.functions = .standard)

include one functions

theorem evalStep_hasShape {node : Node} {position : Nat} (steady : node.Steady)
    (hs : set.HasShape d) (h : s.evalStep node position set = .ok set') :
    set'.HasShape (node.definite d) := by
  unfold evalStep at h
  match node with
  | .root =>
      cases h
      exact .one _
  | .current =>
      cases h
      simpa [Node.definite, fansOut] using hs
  | .call name args =>
      rw [functions] at h
      obtain ⟨e, found, given⟩ := Registry.invoke_gives _ h
      dsimp only at found
      rw [Node.definite, found]
      exact given.hasShape (Registry.standard_steady found steady) hs
  | .comparison _ _ _ | .condition _ _ _ | .not _ | .literal _ | .path _ => cases h
  | .property _ | .index _ | .slice _ | .wildcard | .multiKey _ | .omission _ =>
      exact applyStep_hasShape one hs h

theorem evalSteps_hasShape {steps : List Step} (steady : ∀ s ∈ steps, s.node.Steady)
    (hs : set.HasShape d) (h : s.evalSteps steps set = .ok set') :
    set'.HasShape (definiteBehind steps d) := by
  induction steps generalizing set d with
  | nil =>
      cases h
      exact hs
  | cons step rest ih =>
      unfold evalSteps at h
      obtain ⟨middle, hm, h⟩ := Outcome.eq_ok_of_bind h
      rw [List.forall_mem_cons] at steady
      exact ih steady.2 (evalStep_hasShape one functions steady.1 hs hm) h

omit one functions

/-- The fallbacks that end the evaluation or give one value, also where they are not asked. -/
theorem replacesByOne (fallback : s.policy.fallback = .error ∨
    ∃ v, s.policy.fallback = .plain (.substitute v)) : s.ReplacesByOne := by
  have asked : s.fallback = .error ∨ ∃ v, s.fallback = .plain (.substitute v) := by
    unfold Scope.fallback
    split
    · exact .inl rfl
    · exact fallback
  intro miss values h
  unfold recover at h
  rcases asked with asked | ⟨v, asked⟩
  · rw [asked] at h
    cases h
  · rw [asked] at h
    cases h
    exact ⟨v, rfl⟩

end Scope

/-! ### Aliases -/

variable {p : Policy} {q : Query}

namespace Policy

theorem steady_expandNode (p : Policy) (n : Node) : (p.expandNode n).Steady ↔ n.Steady := by
  cases n <;> rfl

theorem steady_expand (hq : q.Steady) (targets : ∀ a ∈ p.aliases, a.target.Steady) :
    (p.expand q).Steady := by
  have expanded : ∀ s ∈ q.steps, (p.expandStep s).node.Steady := fun s hs =>
    (p.steady_expandNode s.node).2 (hq s hs)
  rcases p.expandSteps_cases [] q.steps with plain | ⟨a, ha⟩
  · rw [expand, expandSteps_plain [] plain]
    exact List.forall_mem_map.2 expanded
  · obtain ⟨name, named⟩ := target?_of_stepTarget? a.named
    obtain ⟨b, hb, he⟩ := mem_of_target? named
    rw [expand, ha]
    refine List.forall_mem_append.2 ⟨List.forall_mem_map.2 fun s hs => ?_,
      List.forall_mem_map.2 fun s hs => expanded s (by simp [a.steps_eq, hs])⟩
    rw [← he] at hs
    exact targets b hb s hs

theorem isPredicate_expand (hq : q.isPredicate = false)
    (targets : ∀ a ∈ p.aliases, a.target.isPredicate = false) :
    (p.expand q).isPredicate = false := by
  rw [Query.isPredicate_eq_false_iff] at hq ⊢
  rcases p.expandSteps_cases [] q.steps with plain | ⟨a, ha⟩
  · rw [expand, expandSteps_plain [] plain, List.nil_append, List.getLast?_map]
    intro s hs
    obtain ⟨r, hr, rfl⟩ := Option.map_eq_some_iff.1 hs
    exact (p.isCondition_expandNode r.node).trans (hq r hr)
  · -- the last step stands behind the alias or else is the last of its target
    rw [expand, ha, List.getLast?_append, Query.stepsAt, List.getLast?_map, List.getLast?_map]
    rw [a.steps_eq, List.getLast?_append, List.getLast?_cons] at hq
    cases last : a.after.getLast? with
    | some r =>
        rw [last] at hq
        rintro s ⟨⟩
        exact (p.isCondition_expandNode r.node).trans (hq r rfl)
    | none =>
        obtain ⟨name, named⟩ := target?_of_stepTarget? a.named
        obtain ⟨b, hb, he⟩ := mem_of_target? named
        intro s hs
        obtain ⟨r, hr, rfl⟩ := Option.map_eq_some_iff.1 hs
        rw [← he] at hr
        exact Query.isPredicate_eq_false_iff.1 (targets b hb) r hr

end Policy

theorem Config.isPredicate_target {c : Config} (h : c.validate = .ok p) :
    ∀ a ∈ p.aliases, a.target.isPredicate = false := by
  intro a ha
  obtain ⟨path, written⟩ := (validate_compiledTo h).target ha
  exact written.2

/-! ### Outputs -/

theorem evalQuery_hasShape (fallback : p.fallback = .error ∨
    ∃ v, p.fallback = .plain (.substitute v)) (plain : (p.expand q).isPredicate = false)
    (steady : (p.expand q).Steady) {document : Json} {o : Output}
    (h : (Engine.ofPolicy p).evalQuery q document = .ok o) :
    o.HasShape (definiteBehind (p.expand q).steps true) := by
  unfold Engine.evalQuery at h
  rw [show (Engine.ofPolicy p).policy = p from rfl, Engine.splitCondition_of_not_isPredicate plain]
    at h
  obtain ⟨set, hs, h⟩ := Outcome.eq_ok_of_bind h
  cases h
  have one : ((Engine.ofPolicy p).scope document).ReplacesByOne := Scope.replacesByOne fallback
  exact (Scope.evalSteps_hasShape one rfl steady (.one document) hs).output

/-- Under a policy with the error or the default fallback the outputs of a path are all values or
all lists. -/
theorem output_shape_fixed {c : Config} {p : Policy} {q : Query} (validated : c.validate = .ok p)
    (fallback : p.fallback = .error ∨ ∃ v, p.fallback = .plain (.substitute v))
    (plain : q.isPredicate = false) (steady : q.Steady)
    (targets : ∀ a ∈ p.aliases, a.target.Steady) {document document' : Json} {o o' : Output}
    (h : (Engine.ofPolicy p).evalQuery q document = .ok o)
    (h' : (Engine.ofPolicy p).evalQuery q document' = .ok o') :
    (∃ j j', o = .value j ∧ o' = .value j') ∨ ∃ js js', o = .values js ∧ o' = .values js' := by
  have plain := Policy.isPredicate_expand plain (Config.isPredicate_target validated)
  have steady := Policy.steady_expand steady targets
  have shape := evalQuery_hasShape fallback plain steady h
  have shape' := evalQuery_hasShape fallback plain steady h'
  -- both outputs have the shape that the steps have
  cases hd : definiteBehind (p.expand q).steps true with
  | true =>
      rw [hd] at shape shape'
      cases shape with
      | value j =>
          cases shape' with
          | value j' => exact .inl ⟨j, j', rfl, rfl⟩
  | false =>
      rw [hd] at shape shape'
      cases shape with
      | values js =>
          cases shape' with
          | values js' => exact .inr ⟨js, js', rfl, rfl⟩

/-- The length of a text behind an alias, and of the null that stands in for one. -/
theorem output_shape_fixed_length :
    ∃ p, Config.validate ⟨[⟨"u", "$.u"⟩], ⟨.default, some .null, none⟩, .standard⟩ = .ok p ∧
      ∃ q o o', q = ⟨[⟨.root, 0⟩, ⟨.property "u", 0⟩, ⟨.call "length" [], 2⟩]⟩ ∧
        (Engine.ofPolicy p).evalQuery q (.object [("u", .string "Ann")]) = .ok o ∧
        (Engine.ofPolicy p).evalQuery q (.array []) = .ok o' ∧
        ((∃ j j', o = .value j ∧ o' = .value j') ∨
          ∃ js js', o = .values js ∧ o' = .values js') := by
  let p : Policy :=
    ⟨[⟨"u", ⟨[⟨.root, 0⟩, ⟨.property "u", 2⟩]⟩⟩], .plain (.substitute .null), .standard⟩
  let q : Query := ⟨[⟨.root, 0⟩, ⟨.property "u", 0⟩, ⟨.call "length" [], 2⟩]⟩
  have validated : Config.validate ⟨[⟨"u", "$.u"⟩], ⟨.default, some .null, none⟩, .standard⟩ =
      .ok p := by
    cbv
  have found : (Engine.ofPolicy p).evalQuery q (.object [("u", .string "Ann")]) =
      .ok (.value (.number (.int 3))) := rfl
  have replaced : (Engine.ofPolicy p).evalQuery q (.array []) =
      .ok (.value (.number (.int 0))) := rfl
  refine ⟨p, validated, q, _, _, rfl, found, replaced,
    output_shape_fixed validated (.inr ⟨.null, rfl⟩) rfl ?_ ?_ found replaced⟩
  · simp [q, Query.Steady, Node.Steady]
  · simp [p, Query.Steady, Node.Steady]

/-- The first item of a list is a value where there is one. -/
example : (Engine.ofPolicy .standard).evalQuery ⟨[⟨.root, 0⟩, ⟨.call "first" [], 2⟩]⟩
      (.array [.null]) = .ok (.value .null) ∧
    (Engine.ofPolicy .standard).evalQuery ⟨[⟨.root, 0⟩, ⟨.call "first" [], 2⟩]⟩
      (.array []) = .ok (.values []) :=
  ⟨rfl, rfl⟩

end PathQuery
