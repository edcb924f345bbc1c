import PathQuery.Proofs.Access.DistanceTable
import PathQuery.Proofs.Access.ParserReading
import PathQuery.Proofs.Config.Compiled
import PathQuery.Proofs.Evaluation.Definite
import PathQuery.Proofs.Evaluation.Parts

/-!
What an evaluation looks up by number. The indexes and slices of a parsed query hold 64-bit
integers, and so do those of the paths that the policy brings in. All arrays that a step can come to
are parts of the document or of the value that the policy substitutes. Together this is the
condition under which the element functions refuse nothing, kept from each evaluation to those that
take place on its behalf.
-/

namespace PathQuery

open Outcome (Ensures)

/-! ### Short arrays -/

/-- The length of each array in the value is a 64-bit integer. -/
inductive Json.Short : Json → Prop
  | scalar {v : Json} : v.isScalar = true → Short v
  | array {items : List Json} : items.length < 2 ^ 63 → (∀ v ∈ items, Short v) →
      Short (.array items)
  | object {members : List (String × Json)} : (∀ m ∈ members, Short m.2) →
      Short (.object members)

theorem Json.hereditary_short : Json.Hereditary Json.Short where
  scalar := .scalar
  item h hv := by
    cases h with
    | scalar flat => cases flat
    | array _ items => exact items _ hv
  member h hm := by
    cases h with
    | scalar flat => cases flat
    | object members => exact members _ hm
  without names h := by
    cases h with
    | scalar flat => cases flat
    | object members => exact .object fun m hm => members m (List.mem_of_mem_filter hm)

theorem Json.Short.length_lt {items : List Json} (h : Json.Short (.array items)) :
    items.length < 2 ^ 63 := by
  cases h with
  | scalar flat => cases flat
  | array length _ => exact length

/-! ### Jobs -/

def Task.Formed (named : String → Prop) : Task → Prop
  | .path steps _ => StepsFormed named steps
  | .condition node _ | .operand node _ => node.Formed named .argument

/-- A job on a formed tree and on values of the class. -/
structure Job.Kept (named : String → Prop) (P : Json → Prop) (job : Job) : Prop where
  formed : job.task.Formed named
  current : job.task.current.Within P

variable {named : String → Prop} {P : Json → Prop} {p : Policy} {functions : Registry}
  {document : Json}

theorem Query.Formed.of_splitCondition {q : Query} (hq : q.Formed named) {steps : List Step}
    {condition : Option Node} (hs : Engine.splitCondition q.steps = (steps, condition)) :
    StepsFormed named steps ∧ ∀ c ∈ condition, c.Formed named .condition := by
  cases hq with
  | mk path last =>
      rw [Engine.splitCondition_formed _ _ path last, Prod.mk.injEq] at hs
      obtain ⟨rfl, rfl⟩ := hs
      exact ⟨.cons (.inl rfl) path, last⟩

theorem StepsFormed.of_append {before after : List Step}
    (h : StepsFormed named (before ++ after)) :
    StepsFormed named before ∧ StepsFormed named after :=
  List.forall_mem_append.1 h

/-- The set that reaches a step is in the class. -/
theorem Job.Kept.reached (hp : p.Formed named) (hw : p.Within P document) {level : Nat}
    {strict : Bool} {before after : List Step} {current set : ValueSet}
    (h : Job.Kept named P ⟨level, strict, .path (before ++ after) current⟩)
    (hs : (scopeAt p functions document level strict).evalSteps before current = .ok set) :
    set.Within P :=
  ((scopeAt_keeps hp hw level strict).formedSteps (StepsFormed.of_append h.formed).1
    h.current).of_ok hs

theorem Begins.kept (hp : p.Formed named) (hw : p.Within P document) {q : Query}
    (hq : q.Formed named) {job : Job} (h : Begins p functions document q job) :
    job.Kept named P := by
  have expanded := hq.expand hp
  cases h with
  | path split =>
      exact ⟨(expanded.of_splitCondition split).1, ValueSet.within_single hw.document⟩
  | condition split given =>
      obtain ⟨steps, condition⟩ := expanded.of_splitCondition split
      have keeps : (scopeAt p functions document p.levels false).Keeps P :=
        scopeAt_keeps hp hw p.levels false
      exact ⟨.conditionArgument (condition _ rfl),
        (keeps.formedSteps steps (ValueSet.within_single hw.document)).of_ok given⟩

theorem StepsFormed.step {before after : List Step} {n : Node} {position : Nat}
    (h : StepsFormed named (before ++ ⟨n, position⟩ :: after)) (hn : n.isPathStep = true) :
    n.Formed named .step := by
  rcases h _ (List.mem_append_right before List.mem_cons_self) with anchor | formed
  · rcases anchor with rfl | rfl <;> cases hn
  · exact formed

theorem StepsFormed.arguments {before after : List Step} {name : String} {args : List Node}
    {position : Nat} (h : StepsFormed named (before ++ ⟨.call name args, position⟩ :: after)) :
    ∀ arg ∈ args, arg.Formed named .argument := by
  cases h.step rfl with
  | call _ args => exact args

theorem Node.Formed.stepsFormed {steps : List Step} (h : (path steps).Formed named .argument) :
    StepsFormed named steps := by
  cases h with
  | operandArgument operand =>
      cases operand with
      | fromRoot steps => exact .cons (.inl rfl) steps
      | fromCurrent _ steps => exact .cons (.inr rfl) steps
  | conditionArgument condition => cases condition

/-- A condition as an argument is no operand. -/
theorem Node.Formed.condition_of_argument {n : Node} (hc : n.isCondition = true)
    (h : n.Formed named .argument) : n.Formed named .condition := by
  cases h with
  | operandArgument operand => cases operand <;> cases hc
  | conditionArgument condition => exact condition

theorem Spawns.kept (hp : p.Formed named) (hw : p.Within P document) {job job' : Job}
    (h : Spawns p functions document job job') (hj : job.Kept named P) : job'.Kept named P := by
  cases h with
  | nestedPath given arg item =>
      have set := hj.reached hp hw given
      exact ⟨(hj.formed.arguments _ arg).stepsFormed,
        ValueSet.within_single (set.items hw.hereditary _ item)⟩
  | nestedCondition given arg item =>
      have set := hj.reached hp hw given
      exact ⟨hj.formed.arguments _ arg, ValueSet.within_single (set.items hw.hereditary _ item)⟩
  | nestedOperand given arg => exact ⟨hj.formed.arguments _ arg, hj.reached hp hw given⟩
  | aliasInGroup _ _ found =>
      exact ⟨(hp.target found).stepsFormed, ValueSet.within_single hw.document⟩
  | alternate infer hq =>
      exact ⟨(hp.alternate infer hq).stepsFormed, ValueSet.within_single hw.document⟩
  | leftOperand =>
      cases hj.formed.condition_of_argument rfl with
      | comparison left _ => exact ⟨.operandArgument left, hj.current⟩
  | rightOperand =>
      cases hj.formed.condition_of_argument rfl with
      | comparison _ right => exact ⟨.operandArgument right, hj.current⟩
  | leftCondition =>
      cases hj.formed.condition_of_argument rfl with
      | condition left _ => exact ⟨.conditionArgument left, hj.current⟩
  | rightCondition =>
      cases hj.formed.condition_of_argument rfl with
      | condition _ right => exact ⟨.conditionArgument right, hj.current⟩
  | negated =>
      cases hj.formed.condition_of_argument rfl with
      | not inner => exact ⟨.conditionArgument inner, hj.current⟩
  | operandPath => exact ⟨hj.formed.stepsFormed, hj.current⟩

/-- Along the evaluations that a query leads to. -/
theorem Job.kept_of_reaches (hp : p.Formed named) (hw : p.Within P document) {q : Query}
    (hq : q.Formed named) {start job : Job} (begins : Begins p functions document q start)
    (reaches : Relation.ReflTransGen (Spawns p functions document) start job) :
    job.Kept named P := by
  induction reaches with
  | refl => exact begins.kept hp hw hq
  | tail _ spawns ih => exact spawns.kept hp hw ih

/-! ### Accesses to elements -/

/-- What is looked up in an array. -/
inductive Access where
  | index (items : List Json) (i : Int)
  | slice (items : List Json) (bounds : Slice)

/-- Machine arithmetic refuses nothing and gives what is selected. -/
def Access.InRange : Access → Prop
  | index items i => Guarded.index? items i = some (Lookup.index? items i)
  | slice items bounds => Guarded.slice? items bounds = some (Lookup.slice items bounds)

/-- A step of the path comes to the array. -/
inductive Job.Accesses (p : Policy) (functions : Registry) (document : Json) :
    Job → Access → Prop
  | index {level : Nat} {strict : Bool} {before after : List Step} {current set : ValueSet}
      {i : Int} {position : Nat} {items : List Json} :
      (scopeAt p functions document level strict).evalSteps before current = .ok set →
      .array items ∈ set.values →
      Accesses p functions document
        ⟨level, strict, .path (before ++ ⟨.index i, position⟩ :: after) current⟩
        (.index items i)
  | slice {level : Nat} {strict : Bool} {before after : List Step} {current set : ValueSet}
      {bounds : Slice} {position : Nat} {items : List Json} :
      (scopeAt p functions document level strict).evalSteps before current = .ok set →
      .array items ∈ set.values →
      Accesses p functions document
        ⟨level, strict, .path (before ++ ⟨.slice bounds, position⟩ :: after) current⟩
        (.slice items bounds)

/-- The access is made, by a step of any depth, while the query is evaluated on the document. -/
def Accessed (p : Policy) (functions : Registry) (document : Json) (q : Query) (access : Access) :
    Prop :=
  ∃ start job, Begins p functions document q start ∧
    Relation.ReflTransGen (Spawns p functions document) start job ∧
      job.Accesses p functions document access

theorem Job.Kept.inRange (hp : p.Formed named) (hw : p.Within Json.Short document) {job : Job}
    (hj : job.Kept named Json.Short) {access : Access}
    (h : job.Accesses p functions document access) : access.InRange := by
  cases h with
  | index given array =>
      have short := (hj.reached hp hw given _ array).length_lt
      cases hj.formed.step rfl with
      | index fits => exact Guarded.index?_eq short fits
  | slice given array =>
      have short := (hj.reached hp hw given _ array).length_lt
      cases hj.formed.step rfl with
      | slice fits => exact Guarded.slice?_eq short fits

/-! ### Configurations -/

/-- The values that a configuration writes. -/
def Config.values (c : Config) : List Json :=
  let exhausted := do (← (← c.fallback.inferRules).exhausted).value
  c.fallback.value.toList ++ exhausted.toList

theorem Config.mem_values_of_substitute {c : Config} {p : Policy} (h : c.validate = .ok p)
    {v : Json} (last : p.fallback.last = .substitute v) : v ∈ c.values := by
  have compiled := (validate_compiledTo h).fallback
  obtain ⟨aliases, written, fuzzy⟩ := c
  generalize p.fallback = fallback at compiled last
  cases compiled with
  | plain plain =>
      cases last
      cases plain
      exact List.mem_singleton_self v
  | @infer rules _ _ _ compiled =>
      cases last
      obtain ⟨keys, queries, exhausted⟩ := rules
      cases compiled.exhausted with
      | present value =>
          cases value
          exact List.mem_singleton_self v

/-- What the policy substitutes is written in the configuration. -/
theorem Config.within_of_validate {c : Config} {p : Policy} (h : c.validate = .ok p)
    (hd : document.Short) (hc : ∀ v ∈ c.values, v.Short) : p.Within Json.Short document where
  hereditary := Json.hereditary_short
  document := hd
  substitute last := hc _ (mem_values_of_substitute h last)

/-! ### Arguments of calls -/

/-- The functions that look at their first argument. -/
def Builtin.takesArgument : Builtin → Bool
  | map | filter | matchesRegex | contains => true
  | _ => false

theorem Registry.standard_least : ∀ e ∈ Registry.standard.entries,
    e.builtin.takesArgument = true → 0 < e.least := by
  decide

theorem Call.argument_of_find {c : Call} {e : FunctionEntry}
    (found : Registry.standard.find? c.name = some e) (least : e.least ≤ c.args.length)
    (takes : e.builtin.takesArgument = true) :
    ∃ arg, c.args[0]? = some arg ∧ c.argument = .ok arg := by
  have positive := Registry.standard_least e (List.mem_of_find?_eq_some found) takes
  unfold Call.argument
  cases args : c.args with
  | nil =>
      rw [args] at least
      exact absurd least (Nat.not_le_of_gt positive)
  | cons arg rest => exact ⟨arg, rfl, rfl⟩

/-! ### All accesses -/

/-- Nothing is looked up out of range, and no arithmetic of indexes leaves the 64-bit integers: not
when a text is parsed by the numbers of its tokens, not when a step of a query comes to an array,
not in the table of distances between two names, and not when a function looks at its first
argument. The arrays of the document and of the configuration are shorter than `2 ^ 63`. -/
theorem accesses_in_range {c : Config} {p : Policy} {document : Json}
    (validated : c.validate = .ok p) (short : document.Short)
    (written : ∀ v ∈ c.values, v.Short) :
    (∃ r : Reading Query, Parser.query = r.onStream ∧ ∀ text ts, tokenize text = .ok ts →
      r.onCursor? (Guarded.Cursor.ofTokens ts) = some (Query.parse text)) ∧
    (∀ text q access, Query.parse text = .ok q → Accessed p .standard document q access →
      access.InRange) ∧
    (∀ s t, Guarded.distance? s t = some (EditDistance.distance s t)) ∧
    ∀ (call : Call) (e : FunctionEntry), Registry.standard.find? call.name = some e →
      e.least ≤ call.args.length → e.builtin.takesArgument = true →
        ∃ arg, call.args[0]? = some arg ∧ call.argument = .ok arg := by
  have policy := Config.formed_of_validate validated
  have within := Config.within_of_validate validated short written
  refine ⟨exists_reading_of_query, ?_, Guarded.distance?_eq, fun _ _ => Call.argument_of_find⟩
  intro text q access parsed accessed
  obtain ⟨start, job, begins, reaches, made⟩ := accessed
  have kept := Job.kept_of_reaches policy within (formed_of_parse parsed) begins reaches
  exact kept.inRange policy within made

/-- The least step there is takes the last element and ends the loop. -/
theorem accesses_in_range_least_step :
    ∃ p q, Config.validate ⟨[], ⟨.default, some (.array []), none⟩, .standard⟩ = .ok p ∧
      Query.parse "$.a[::-9223372036854775808]" = .ok q ∧
      Accessed p .standard (.object [("a", .array [.null, .null])]) q
        (.slice [.null, .null] ⟨none, none, some (-2 ^ 63)⟩) ∧
      Guarded.slice? [.null, .null] ⟨none, none, some (-2 ^ 63)⟩ =
        some (Lookup.slice [.null, .null] ⟨none, none, some (-2 ^ 63)⟩) := by
  have flat : ∀ v ∈ [Json.null, Json.null], v.Short := by
    intro v hv
    obtain rfl : v = .null := by simpa using hv
    exact .scalar rfl
  have document : Json.Short (.object [("a", .array [.null, .null])]) :=
    .object (List.forall_mem_singleton.2 (.array (by decide) flat))
  have values : ∀ v ∈ Config.values ⟨[], ⟨.default, some (.array []), none⟩, .standard⟩,
      v.Short :=
    List.forall_mem_singleton.2 (.array (by decide) nofun)
  have validated : Config.validate ⟨[], ⟨.default, some (.array []), none⟩, .standard⟩ =
      .ok ⟨[], .plain (.substitute (.array [])), .standard⟩ := by cbv
  have tokens : tokenize "$.a[::-9223372036854775808]" = .ok
      [⟨.root, "$", 0⟩, ⟨.dot, ".", 1⟩, ⟨.property, "a", 2⟩, ⟨.openBracket, "[", 3⟩,
        ⟨.colon, ":", 4⟩, ⟨.colon, ":", 5⟩, ⟨.number, "-9223372036854775808", 6⟩,
        ⟨.closeBracket, "]", 26⟩, ⟨.finish, "", 27⟩] :=
    Scanner.tokenize_eq_within _
  have parsed : Query.parse "$.a[::-9223372036854775808]" =
      .ok ⟨[⟨.root, 0⟩, ⟨.property "a", 2⟩, ⟨.slice ⟨none, none, some (-2 ^ 63)⟩, 3⟩]⟩ :=
    parse_of_tokenize tokens
  have given : (scopeAt ⟨[], .plain (.substitute (.array [])), .standard⟩ .standard
      (.object [("a", .array [.null, .null])]) 2 false).evalSteps
        [⟨.root, 0⟩, ⟨.property "a", 2⟩] (.single (.object [("a", .array [.null, .null])])) =
      .ok ⟨[.array [.null, .null]], true⟩ := rfl
  have accessed : Accessed ⟨[], .plain (.substitute (.array [])), .standard⟩ .standard
      (.object [("a", .array [.null, .null])])
      ⟨[⟨.root, 0⟩, ⟨.property "a", 2⟩, ⟨.slice ⟨none, none, some (-2 ^ 63)⟩, 3⟩]⟩
      (.slice [.null, .null] ⟨none, none, some (-2 ^ 63)⟩) :=
    ⟨_, _, .path rfl, .refl, .slice given (List.mem_singleton_self _)⟩
  exact ⟨_, _, validated, parsed, accessed,
    (accesses_in_range validated document values).2.1 _ _ _ parsed accessed⟩

end PathQuery
