import Mathlib
import PathQuery.Config.Validation
import PathQuery.Proofs.Evaluation.Levels
import PathQuery.Proofs.Function.Yield
import PathQuery.Proofs.Query.RoundTrip

/-!
Definite sets of values. A definite set should hold at most one value: it makes the output a value
of its own, and functions open it when it is an array. Every step and every function keeps this,
with one exception: the values of an alternate query take the place of a step that did not resolve,
however many they are, and the set stays definite.

The main statement gives the exact condition on a policy and a document. If the alternate queries
give at most one value there, the definite sets of all evaluations on the document hold at most one.
Otherwise there is a query with a definite set of several values.
-/

namespace PathQuery

/-- A definite set holds at most one value. -/
def ValueSet.Coherent (set : ValueSet) : Prop :=
  set.definite = true → set.values.length ≤ 1

namespace ValueSet

theorem coherent_single (value : Json) : (single value).Coherent :=
  fun _ => Nat.le_refl 1

theorem coherent_many (values : List Json) : (many values).Coherent :=
  fun h => by cases h

theorem coherent_optional (value : Option Json) : (optional value).Coherent := by
  intro _
  cases value with
  | none => exact Nat.zero_le 1
  | some v => exact Nat.le_refl 1

end ValueSet

/-- Each function hands on a definite set of at most one value. -/
theorem Yield.Gives.coherent {y : Yield} {input set : ValueSet} (hi : input.Coherent)
    (h : y.Gives input set) : set.Coherent := by
  cases h with
  | one value => exact ValueSet.coherent_single value
  | many values => exact ValueSet.coherent_many values
  | atMostOne value => exact ValueSet.coherent_optional value
  | perValue length => exact fun hd => length ▸ hi hd
  | perItem _ =>
      intro hd
      simp only [Bool.and_eq_true, beq_iff_eq] at hd
      exact Nat.le_of_eq hd.1

/-! ### Steps -/

namespace Scope

variable {s : Scope} {set set' : ValueSet}

/-- What takes the place of a miss is one value at most. -/
def RecoversOne (s : Scope) : Prop :=
  ∀ miss values, s.recover miss = .ok values → values.length ≤ 1

variable {P : List Json → Prop} (single : ∀ v, P [v])
  (recovered : ∀ miss values, s.recover miss = .ok values → P values)

include single recovered

theorem member_keeps {step : Step} {name : String} {value : Json} {values : List Json}
    (h : s.member step name value = .ok values) : P values := by
  unfold member at h
  dsimp only at h
  split at h
  · cases h
    exact single _
  · exact recovered _ _ h

/-- Steps that do not fan out select one value of each, or what takes its place. -/
theorem select_keeps {step : Step} (hf : fansOut step.node = false) {value : Json}
    {values : List Json} (h : s.select step value = .ok values) : P values := by
  unfold select at h
  split at h
  · exact member_keeps single recovered h
  · simp_all [fansOut]
  · split at h
    · cases h
      exact single _
    · exact recovered _ _ h
  · simp_all [fansOut]
  · simp_all [fansOut]
  · cases h
    exact single _
  · exact recovered _ _ h

omit single recovered

theorem applyStep_coherent (one : s.RecoversOne) {step : Step} (hs : set.Coherent)
    (h : s.applyStep step set = .ok set') : set'.Coherent := by
  obtain ⟨values, definite⟩ := set
  obtain ⟨selected, hm, h⟩ := Outcome.eq_ok_of_bind h
  cases h
  -- the result is definite only where the set was and the step does not fan out
  intro hd
  simp only [Bool.and_eq_true, Bool.not_eq_true'] at hd
  have hlen : values.length ≤ 1 := hs hd.1
  match values with
  | [] =>
      cases hm
      exact Nat.zero_le 1
  | [value] =>
      rw [List.mapM_cons] at hm
      obtain ⟨found, hv, hm⟩ := Outcome.eq_ok_of_bind hm
      cases hm
      simpa using select_keeps (fun _ => Nat.le_refl 1) one hd.2 hv
  | _ :: _ :: _ => simp at hlen

theorem evalStep_coherent (one : s.RecoversOne) {node : Node} {position : Nat}
    (hs : set.Coherent) (h : s.evalStep node position set = .ok set') : set'.Coherent := by
  unfold evalStep at h
  match node with
  | .root =>
      cases h
      exact ValueSet.coherent_single _
  | .current =>
      cases h
      exact hs
  | .call name args =>
      obtain ⟨e, -, given⟩ := Registry.invoke_gives _ h
      exact given.coherent hs
  | .comparison _ _ _ | .condition _ _ _ | .not _ | .literal _ | .path _ => cases h
  | .property _ | .index _ | .slice _ | .wildcard | .multiKey _ | .omission _ =>
      exact applyStep_coherent one hs h

theorem evalSteps_coherent (one : s.RecoversOne) {steps : List Step} (hs : set.Coherent)
    (h : s.evalSteps steps set = .ok set') : set'.Coherent := by
  induction steps generalizing set with
  | nil =>
      cases h
      exact hs
  | cons step rest ih =>
      unfold evalSteps at h
      obtain ⟨middle, hm, h⟩ := Outcome.eq_ok_of_bind h
      exact ih (evalStep_coherent one hs hm) h

end Scope

/-! ### Alternate queries -/

/-- Where the alternate queries of the policy give values on the document, they give one. -/
def Policy.AlternatesGiveOne (p : Policy) (functions : Registry) (document : Json) : Prop :=
  ∀ keys queries last values, p.fallback = .infer keys queries last →
    (scopeAt p functions document p.levels false).alternateQuery? queries = .ok (some values) →
      values.length ≤ 1

variable {p : Policy} {functions : Registry} {document : Json}

theorem lastResort_length {m : Miss} {last : LastResort} {values : List Json}
    (h : Scope.lastResort m last = .ok values) : values.length ≤ 1 := by
  cases last with
  | substitute value =>
      cases h
      exact Nat.le_refl 1
  | fail => cases h
  | skip =>
      cases h
      exact Nat.zero_le 1

/-- At a lower level the alternate queries give the same values or are found circular. -/
theorem recoversOne (alternates : p.AlternatesGiveOne functions document) {level : Nat}
    (hl : level ≤ p.levels) (strict : Bool) :
    (scopeAt p functions document level strict).RecoversOne := by
  intro m values h
  unfold Scope.recover at h
  split at h
  · exact lastResort_length h
  · rename_i keys queries last hf
    split at h
    · cases h
      exact Nat.le_refl 1
    · obtain ⟨found, hq, h⟩ := Outcome.eq_ok_of_bind h
      cases found with
      | none => exact lastResort_length h
      | some vs =>
          cases h
          -- strict evaluations have no alternates, so it is the policy that has them
          have infer : p.fallback = .infer keys queries last := by
            cases strict with
            | true => cases hf
            | false => exact hf
          have more : Outcome.Below (· = .circular)
              ((scopeAt p functions document level strict).alternateQuery? queries)
              ((scopeAt p functions document p.levels false).alternateQuery? queries) :=
            Scope.alternateQuery?_below circular_fatal fun q _ => enterPath_mono hl true q.steps
          exact alternates keys queries last _ infer (more.eq_of_ok hq)

/-! ### All evaluations that a query leads to -/

/-- What is evaluated, and the values it is evaluated on. -/
inductive Task where
  | path (steps : List Step) (current : ValueSet)
  | condition (node : Node) (current : ValueSet)
  | operand (node : Node) (current : ValueSet)

namespace Task

def current : Task → ValueSet
  | path _ current | condition _ current | operand _ current => current

end Task

/-- A task at a level of evaluation. -/
structure Job where
  level : Nat
  strict : Bool
  task : Task

/-- One evaluation takes place on behalf of another. Arguments of a call are evaluated on the items
of the set that reaches the call, or as operands on the set itself. Aliases of a key group and
alternate queries are entered from the document, one level below. -/
inductive Spawns (p : Policy) (functions : Registry) (document : Json) : Job → Job → Prop
  | nestedPath {level : Nat} {strict : Bool} {before after : List Step} {current set : ValueSet}
      {name : String} {args : List Node} {position : Nat} {steps : List Step} {item : Json} :
      (scopeAt p functions document level strict).evalSteps before current = .ok set →
      .path steps ∈ args → item ∈ set.items →
      Spawns p functions document
        ⟨level, strict, .path (before ++ ⟨.call name args, position⟩ :: after) current⟩
        ⟨level, strict, .path steps (.single item)⟩
  | nestedCondition {level : Nat} {strict : Bool} {before after : List Step}
      {current set : ValueSet} {name : String} {args : List Node} {position : Nat} {arg : Node}
      {item : Json} :
      (scopeAt p functions document level strict).evalSteps before current = .ok set →
      arg ∈ args → item ∈ set.items →
      Spawns p functions document
        ⟨level, strict, .path (before ++ ⟨.call name args, position⟩ :: after) current⟩
        ⟨level, strict, .condition arg (.single item)⟩
  | nestedOperand {level : Nat} {strict : Bool} {before after : List Step}
      {current set : ValueSet} {name : String} {args : List Node} {position : Nat} {arg : Node} :
      (scopeAt p functions document level strict).evalSteps before current = .ok set →
      arg ∈ args →
      Spawns p functions document
        ⟨level, strict, .path (before ++ ⟨.call name args, position⟩ :: after) current⟩
        ⟨level, strict, .operand arg set⟩
  | aliasInGroup {level : Nat} {strict : Bool} {before after : List Step}
      {current set : ValueSet} {names : List String} {name : String} {target : Query}
      {position : Nat} :
      (scopeAt p functions document (level + 1) strict).evalSteps before current = .ok set →
      name ∈ names → p.target? name = some target →
      Spawns p functions document
        ⟨level + 1, strict, .path (before ++ ⟨.multiKey names, position⟩ :: after) current⟩
        ⟨level, strict, .path target.steps (.single document)⟩
  | alternate {level : Nat} {steps : List Step} {current : ValueSet} {keys : List String}
      {queries : List Query} {last : LastResort} {q : Query} :
      p.fallback = .infer keys queries last → q ∈ queries →
      Spawns p functions document ⟨level + 1, false, .path steps current⟩
        ⟨level, true, .path q.steps (.single document)⟩
  | leftOperand {level : Nat} {strict : Bool} {op : Comparator} {left right : Node}
      {current : ValueSet} :
      Spawns p functions document
        ⟨level, strict, .condition (.comparison op left right) current⟩
        ⟨level, strict, .operand left current⟩
  | rightOperand {level : Nat} {strict : Bool} {op : Comparator} {left right : Node}
      {current : ValueSet} :
      Spawns p functions document
        ⟨level, strict, .condition (.comparison op left right) current⟩
        ⟨level, strict, .operand right current⟩
  | leftCondition {level : Nat} {strict : Bool} {op : Connective} {left right : Node}
      {current : ValueSet} :
      Spawns p functions document ⟨level, strict, .condition (.condition op left right) current⟩
        ⟨level, strict, .condition left current⟩
  | rightCondition {level : Nat} {strict : Bool} {op : Connective} {left right : Node}
      {current : ValueSet} :
      Spawns p functions document ⟨level, strict, .condition (.condition op left right) current⟩
        ⟨level, strict, .condition right current⟩
  | negated {level : Nat} {strict : Bool} {inner : Node} {current : ValueSet} :
      Spawns p functions document ⟨level, strict, .condition (.not inner) current⟩
        ⟨level, strict, .condition inner current⟩
  | operandPath {level : Nat} {strict : Bool} {steps : List Step} {current : ValueSet} :
      Spawns p functions document ⟨level, strict, .operand (.path steps) current⟩
        ⟨level, strict, .path steps current⟩

/-- The evaluations that a query begins with: its path, and its condition on what the path gives. -/
inductive Begins (p : Policy) (functions : Registry) (document : Json) (q : Query) : Job → Prop
  | path {steps : List Step} {condition : Option Node} :
      Engine.splitCondition (p.expand q).steps = (steps, condition) →
      Begins p functions document q ⟨p.levels, false, .path steps (.single document)⟩
  | condition {steps : List Step} {node : Node} {set : ValueSet} :
      Engine.splitCondition (p.expand q).steps = (steps, some node) →
      (scopeAt p functions document p.levels false).evalSteps steps (.single document) =
        .ok set →
      Begins p functions document q ⟨p.levels, false, .condition node set⟩

/-- A path produces the sets that its first steps give, up to all of them. -/
def Job.Produces (p : Policy) (functions : Registry) (document : Json) (job : Job)
    (set : ValueSet) : Prop :=
  ∃ steps before after, job.task = .path steps job.task.current ∧ steps = before ++ after ∧
    (scopeAt p functions document job.level job.strict).evalSteps before job.task.current =
      .ok set

/-- The set is produced, by a step, a function or a whole path, while the query is evaluated on the
document. -/
def Arises (p : Policy) (functions : Registry) (document : Json) (q : Query) (set : ValueSet) :
    Prop :=
  ∃ start job, Begins p functions document q start ∧
    Relation.ReflTransGen (Spawns p functions document) start job ∧
      job.Produces p functions document set

/-- Evaluations stay within the levels of the policy, on sets that are coherent. -/
structure Job.Sound (p : Policy) (job : Job) : Prop where
  level : job.level ≤ p.levels
  current : job.task.current.Coherent

theorem Begins.sound (alternates : p.AlternatesGiveOne functions document) {q : Query} {job : Job}
    (h : Begins p functions document q job) : job.Sound p := by
  cases h with
  | path _ => exact ⟨Nat.le_refl _, ValueSet.coherent_single _⟩
  | condition _ hs =>
      exact ⟨Nat.le_refl _, Scope.evalSteps_coherent (recoversOne alternates (Nat.le_refl _) _)
        (ValueSet.coherent_single _) hs⟩

theorem Spawns.sound (alternates : p.AlternatesGiveOne functions document) {job job' : Job}
    (h : Spawns p functions document job job') (hj : job.Sound p) : job'.Sound p := by
  obtain ⟨hl, hc⟩ := hj
  cases h with
  | nestedPath _ _ _ | nestedCondition _ _ _ => exact ⟨hl, ValueSet.coherent_single _⟩
  | nestedOperand hs _ =>
      exact ⟨hl, Scope.evalSteps_coherent (recoversOne alternates hl _) hc hs⟩
  | aliasInGroup _ _ _ | alternate _ _ =>
      exact ⟨Nat.le_of_succ_le hl, ValueSet.coherent_single _⟩
  | leftOperand | rightOperand | leftCondition | rightCondition | negated | operandPath =>
      exact ⟨hl, hc⟩

theorem Job.Sound.coherent (alternates : p.AlternatesGiveOne functions document) {job : Job}
    (hj : job.Sound p) {set : ValueSet} (h : job.Produces p functions document set) :
    set.Coherent := by
  obtain ⟨_, _, _, -, -, hs⟩ := h
  exact Scope.evalSteps_coherent (recoversOne alternates hj.level _) hj.current hs

theorem Arises.coherent (alternates : p.AlternatesGiveOne functions document) {q : Query}
    {set : ValueSet} (h : Arises p functions document q set) : set.Coherent := by
  obtain ⟨start, job, hb, hr, hp⟩ := h
  -- the induction is along the evaluations that lead to the job
  have sound : job.Sound p := by
    clear hp
    induction hr with
    | refl => exact hb.sound alternates
    | tail _ hs ih => exact hs.sound alternates ih
  exact sound.coherent alternates hp

/-! ### A query whose definite set holds several values -/

/-- The name of a type is no array, so the index misses whatever the document. -/
def missingIndex : Query :=
  ⟨[⟨.root, 0⟩, ⟨.call "type" [], 2⟩, ⟨.index 0, 8⟩]⟩

theorem parse_missingIndex : Query.parse "$.type()[0]" = .ok missingIndex := by
  have tokens : tokenize "$.type()[0]" = .ok
      [⟨.root, "$", 0⟩, ⟨.dot, ".", 1⟩, ⟨.property, "type", 2⟩, ⟨.openParen, "(", 6⟩,
        ⟨.closeParen, ")", 7⟩, ⟨.openBracket, "[", 8⟩, ⟨.number, "0", 9⟩, ⟨.closeBracket, "]", 10⟩,
        ⟨.finish, "", 11⟩] :=
    Scanner.tokenize_eq_within _
  rw [parse_of_tokenize tokens]
  rfl

/-- An index has no key, so that the miss goes straight to the alternate queries. -/
theorem evalSteps_missingIndex {keys : List String} {queries : List Query} {last : LastResort}
    {values : List Json} (infer : p.fallback = .infer keys queries last)
    (found : (scopeAt p .standard document p.levels false).alternateQuery? queries =
      .ok (some values)) :
    (scopeAt p .standard document p.levels false).evalSteps missingIndex.steps
      (.single document) = .ok ⟨values, true⟩ := by
  let s := scopeAt p .standard document p.levels false
  let kind : Json := .string document.kind.name
  have typed : s.evalStep (.call "type" []) 2 (.single document) = .ok ⟨[kind], true⟩ := rfl
  have recovered : s.recover ⟨⟨.index 0, 8⟩, none, kind⟩ = .ok values := by
    unfold Scope.recover
    rw [show s.fallback = .infer keys queries last from infer]
    change (s.alternateQuery? queries >>= _) = _
    rw [found]
    rfl
  have indexed : s.evalStep (.index 0) 8 ⟨[kind], true⟩ = .ok ⟨values, true⟩ := by
    change ([kind].mapM (s.select ⟨.index 0, 8⟩) >>= _) = _
    rw [List.mapM_cons, show s.select ⟨.index 0, 8⟩ kind = .ok values from recovered]
    change Except.ok (ValueSet.mk [values].flatten true) = _
    rw [List.flatten_singleton]
  calc
    s.evalSteps missingIndex.steps (.single document)
    _ = s.evalStep (.call "type" []) 2 (.single document) >>=
          s.evalSteps [⟨.index 0, 8⟩] := rfl
    _ = s.evalStep (.index 0) 8 ⟨[kind], true⟩ >>= s.evalSteps [] := by
      rw [typed]
      rfl
    _ = .ok ⟨values, true⟩ := by
      rw [indexed]
      rfl

theorem arises_missingIndex {keys : List String} {queries : List Query} {last : LastResort}
    {values : List Json} (infer : p.fallback = .infer keys queries last)
    (found : (scopeAt p .standard document p.levels false).alternateQuery? queries =
      .ok (some values)) :
    Arises p .standard document missingIndex ⟨values, true⟩ :=
  ⟨_, _, .path rfl, .refl, missingIndex.steps, missingIndex.steps, [], rfl,
    (List.append_nil _).symm, evalSteps_missingIndex infer found⟩

/-- Definite sets hold at most one value exactly when the alternate queries of the policy give at
most one value on the document. -/
theorem definite_at_most_one (p : Policy) (document : Json) :
    (p.AlternatesGiveOne .standard document →
      ∀ q set, Arises p .standard document q set → set.definite = true →
        set.values.length ≤ 1) ∧
    (¬ p.AlternatesGiveOne .standard document →
      ∃ text q set, Query.parse text = .ok q ∧ Arises p .standard document q set ∧
        set.definite = true ∧ 2 ≤ set.values.length) := by
  constructor
  · intro alternates q set h
    exact h.coherent alternates
  · intro several
    simp only [Policy.AlternatesGiveOne, not_forall] at several
    obtain ⟨keys, queries, last, values, infer, found, hv⟩ := several
    exact ⟨_, missingIndex, ⟨values, true⟩, parse_missingIndex, arises_missingIndex infer found,
      rfl, Nat.lt_of_not_le hv⟩

/-- Two items of an alternate query in the place of one missing member. -/
theorem definite_pair :
    ∃ p, Config.validate ⟨[], ⟨.infer, none, some ⟨[], ["$.items.*"], none⟩⟩, .standard⟩ =
        .ok p ∧
      (Engine.ofPolicy p).evalPath [⟨.root, 0⟩, ⟨.property "x", 2⟩]
        (.object [("items", .array [.bool true, .bool false])]) none =
          .ok ⟨[.bool true, .bool false], true⟩ := by
  refine ⟨⟨[], .infer [] [⟨[⟨.root, 0⟩, ⟨.property "items", 2⟩, ⟨.wildcard, 7⟩]⟩] .fail,
    .standard⟩, ?_, ?_⟩
  · cbv
  · rfl

end PathQuery
