import PathQuery.Proofs.Evaluation.Errors
import PathQuery.Proofs.Function.Parts
import PathQuery.Proofs.Json.Equality

/-!
Values that an evaluation takes apart. Steps and functions put no values together, so that what an
evaluation gives is in each hereditary class that holds the document and the value that the policy
substitutes. Whatever path of the policy is entered, the same holds one level below.
-/

namespace PathQuery

open Outcome (Ensures)

/-! ### Selection -/

namespace Lookup

variable {P : Json → Prop}

theorem mem_of_member? {config : FuzzyConfig} {members : List (String × Json)} {name : String}
    {v : Json} (h : member? config members name = some v) : ∃ m ∈ members, m.2 = v := by
  have exact {name : String} (h : members.lookup name = some v) : ∃ m ∈ members, m.2 = v :=
    ⟨_, Json.mem_of_lookup h, rfl⟩
  unfold member? at h
  split at h
  · rename_i value found
    cases h
    exact exact found
  · split at h
    · split at h
      · exact exact h
      · cases h
    · cases h

theorem mem_of_index? {items : List Json} {i : Int} {v : Json} (h : index? items i = some v) :
    v ∈ items := by
  unfold index? at h
  dsimp only at h
  rw [Option.ite_none_left_eq_some] at h
  exact List.mem_of_getElem? h.2

theorem mem_of_mem_slice {items : List Json} {s : Slice} {v : Json} (h : v ∈ slice items s) :
    v ∈ items := by
  obtain ⟨i, -, hi⟩ := List.mem_filterMap.1 h
  exact List.mem_of_getElem? hi

theorem children_keeps (hP : Json.Hereditary P) {value : Json} (h : P value) :
    ∀ v ∈ children value, P v := by
  unfold children
  split
  · exact List.forall_mem_map.2 fun m hm => hP.member h hm
  · exact fun v hv => hP.item h hv
  · exact nofun

end Lookup

/-- The steps of a path, or some of them: each is an anchor or formed. -/
def StepsFormed (named : String → Prop) (steps : List Step) : Prop :=
  ∀ step ∈ steps, (step.node = .root ∨ step.node = .current) ∨ step.node.Formed named .step

theorem StepsFormed.cons {named : String → Prop} {anchor : Node}
    (ha : anchor = .root ∨ anchor = .current) {position : Nat} {steps : List Step}
    (hs : ∀ step ∈ steps, step.node.Formed named .step) :
    StepsFormed named (⟨anchor, position⟩ :: steps) :=
  List.forall_mem_cons.2 ⟨.inl ha, fun step hm => .inr (hs step hm)⟩

theorem Query.IsPath.stepsFormed {named : String → Prop} {q : Query} (h : q.IsPath named) :
    StepsFormed named q.steps := by
  obtain ⟨position, path, steps, formed⟩ := h
  rw [steps]
  exact .cons (.inl rfl) formed

/-! ### Path steps -/

namespace Scope

/-- The class holds what an evaluation begins with and what the policy brings in. -/
structure Keeps (P : Json → Prop) (s : Scope) : Prop where
  hereditary : Json.Hereditary P
  base : P s.base
  substitute {v : Json} : s.fallback.last = .substitute v → P v
  target {name : String} {target : Query} : s.policy.target? name = some target →
    Ensures (ValueSet.Within P) (s.enter s.strict target.steps)
  alternate {keys : List String} {queries : List Query} {last : LastResort} :
    s.fallback = .infer keys queries last → ∀ q ∈ queries,
      Ensures (ValueSet.Within P) (s.enter true q.steps)

namespace Keeps

variable {P : Json → Prop} {s : Scope}

omit s in
theorem lastResort {m : Miss} {last : LastResort}
    (substitute : ∀ {v : Json}, last = .substitute v → P v) :
    Ensures (fun values => ∀ v ∈ values, P v) (Scope.lastResort m last) := by
  cases last with
  | substitute value => exact .ok (List.forall_mem_singleton.2 (substitute rfl))
  | fail => exact .error _
  | skip => exact .ok nofun

theorem alternateMember? (hP : Json.Hereditary P) {m : Miss} (hv : P m.value)
    {keys : List String} {v : Json} (h : s.alternateMember? m keys = some v) : P v := by
  unfold Scope.alternateMember? at h
  split at h
  · rename_i members whole
    obtain ⟨key, -, found⟩ := List.exists_of_findSome?_eq_some h
    obtain ⟨member, hm, rfl⟩ := Lookup.mem_of_member? found
    exact hP.member (whole ▸ hv) hm
  · cases h

theorem alternateQuery? {queries : List Query}
    (enter : ∀ q ∈ queries, Ensures (ValueSet.Within P) (s.enter true q.steps)) :
    Ensures (fun found => ∀ values ∈ found, ∀ v ∈ values, P v) (s.alternateQuery? queries) := by
  induction queries with
  | nil => exact .ok nofun
  | cons q rest ih =>
      rw [List.forall_mem_cons] at enter
      have others := ih enter.2
      unfold Scope.alternateQuery?
      split
      · rename_i set given
        split
        · exact others
        · apply Ensures.ok
          rintro _ ⟨⟩
          exact enter.1.of_ok given
      · exact others
      · exact .error _

theorem recover (h : s.Keeps P) {m : Miss} (hv : P m.value) :
    Ensures (fun values => ∀ v ∈ values, P v) (s.recover m) := by
  have substitute {v : Json} : s.fallback.last = .substitute v → P v := h.substitute
  unfold Scope.recover
  split
  · rename_i last plain
    rw [plain] at substitute
    exact lastResort substitute
  · rename_i keys queries last infer
    rw [infer] at substitute
    split
    · rename_i v found
      exact .ok (List.forall_mem_singleton.2 (alternateMember? h.hereditary hv found))
    · apply (alternateQuery? (h.alternate infer)).bind
      intro found hf
      cases found with
      | none => exact lastResort substitute
      | some values => exact .ok (hf values rfl)

theorem member (h : s.Keeps P) {step : Step} {name : String} {value : Json} (hv : P value) :
    Ensures (fun values => ∀ v ∈ values, P v) (s.member step name value) := by
  unfold Scope.member
  dsimp only
  split
  · rename_i v found
    apply Ensures.ok
    rw [List.forall_mem_singleton]
    split at found
    · obtain ⟨m, hm, rfl⟩ := Lookup.mem_of_member? found
      exact h.hereditary.member hv hm
    · cases found
  · exact h.recover hv

theorem groupMember (h : s.Keeps P) {step : Step} {name : String} {value : Json} (hv : P value) :
    Ensures (fun values => ∀ v ∈ values, P v) (s.groupMember step value name) := by
  unfold Scope.groupMember
  split
  · rename_i target found
    exact (h.target found).bind fun set hs => .ok hs
  · exact h.member hv

theorem select (h : s.Keeps P) {step : Step} {value : Json} (hv : P value) :
    Ensures (fun values => ∀ v ∈ values, P v) (s.select step value) := by
  unfold Scope.select
  split
  · exact h.member hv
  · rename_i names
    apply Ensures.bind (Ensures.mapM fun name _ => h.groupMember hv)
    intro found hf
    apply Ensures.ok
    intro v hm
    obtain ⟨values, inside, hm⟩ := List.mem_flatten.1 hm
    exact hf values inside v hm
  · split
    · rename_i v found
      exact .ok (List.forall_mem_singleton.2 (h.hereditary.item hv (Lookup.mem_of_index? found)))
    · exact h.recover hv
  · exact .ok fun v hm => h.hereditary.item hv (Lookup.mem_of_mem_slice hm)
  · exact .ok (Lookup.children_keeps h.hereditary hv)
  · exact .ok (List.forall_mem_singleton.2 (h.hereditary.without _ hv))
  · exact h.recover hv

theorem applyStep (h : s.Keeps P) {step : Step} {set : ValueSet} (hs : set.Within P) :
    Ensures (ValueSet.Within P) (s.applyStep step set) := by
  apply Ensures.bind (Ensures.mapM fun value hv => h.select (hs value hv))
  intro selected hf
  apply Ensures.ok
  intro v hm
  obtain ⟨values, inside, hm⟩ := List.mem_flatten.1 hm
  exact hf values inside v hm

/-! ### Trees -/

theorem evalSteps {steps : List Step}
    (each : ∀ step ∈ steps, ∀ set, set.Within P →
      Ensures (ValueSet.Within P) (s.evalStep step.node step.position set))
    {set : ValueSet} (hs : set.Within P) : Ensures (ValueSet.Within P) (s.evalSteps steps set) := by
  induction steps generalizing set with
  | nil =>
      rw [Scope.evalSteps]
      exact .ok hs
  | cons step rest ih =>
      rw [List.forall_mem_cons] at each
      rw [Scope.evalSteps]
      exact (each.1 set hs).bind fun set' hs' => ih each.2 hs'

end Keeps

/-- What a node in its role keeps to. A condition gives no value. -/
def NodeKeeps (s : Scope) (P : Json → Prop) : Role → Node → Prop
  | .step, n => ∀ position set, set.Within P →
      Ensures (ValueSet.Within P) (s.evalStep n position set)
  | .operand, n => ∀ name set, set.Within P →
      Ensures (ValueSet.Within P) (s.evalNested name n set)
  | .condition, _ => True
  | .argument, n => ∀ name, (s.argument name n).Keeps P

namespace Keeps

variable {P : Json → Prop} {s : Scope} {named : String → Prop}

theorem anchor (h : s.Keeps P) {n : Node} (ha : n = .root ∨ n = .current) :
    s.NodeKeeps P .step n := by
  intro position set hs
  rcases ha with rfl | rfl
  · rw [evalStep]
    exact .ok (ValueSet.within_single h.base)
  · rw [evalStep]
    exact .ok hs

theorem path (h : s.Keeps P) {anchor : Node} (ha : anchor = .root ∨ anchor = .current)
    {position : Nat} {steps : List Step} (each : ∀ step ∈ steps, s.NodeKeeps P .step step.node) :
    s.NodeKeeps P .operand (.path (⟨anchor, position⟩ :: steps)) := by
  intro name set hs
  rw [evalNested]
  apply evalSteps _ hs
  rw [List.forall_mem_cons]
  exact ⟨h.anchor ha position, fun step hm => each step hm step.position⟩

/-- The induction is on the tree. -/
theorem node (h : s.Keeps P) {role : Role} {n : Node} (hn : n.Formed named role) :
    s.NodeKeeps P role n := by
  induction hn with
  | property | index _ | slice _ | wildcard | multiKey _ | omission _ =>
      intro position set hs
      rw [evalStep]
      exact h.applyStep hs
  | @call name args _ _ ih =>
      intro position set hs
      rw [evalStep, evalArguments_eq_map]
      apply Registry.invoke_ensures h.hereditary hs
      intro a ha
      obtain ⟨arg, hm, rfl⟩ := List.mem_map.1 ha
      exact ih arg hm name
  | @literal value hl =>
      intro name set hs
      rw [evalNested]
      apply Ensures.ok
      apply ValueSet.within_single
      apply h.hereditary.scalar
      cases value with
      | array _ | object _ => exact hl.elim
      | null | bool _ | number _ | string _ => rfl
  | current =>
      intro name set hs
      rw [evalNested]
      exact .ok hs
  | fromRoot _ ih => exact h.path (.inl rfl) ih
  | fromCurrent _ _ ih => exact h.path (.inr rfl) ih
  | comparison | condition | not => exact True.intro
  | @operandArgument arg ho ih =>
      intro name set hs
      have plain : arg.isCondition = false := by
        cases ho <;> rfl
      rw [argument]
      dsimp only
      rw [plain]
      exact ih name set hs
  | @conditionArgument arg hc _ =>
      intro name set hs
      rw [argument]
      dsimp only
      rw [hc.isCondition.2 rfl, if_pos rfl]
      apply (Ensures.trivial _).bind
      intro holds _
      exact .ok (ValueSet.within_single (h.hereditary.scalar rfl))

/-- Steps in a row. -/
theorem formedSteps (h : s.Keeps P) {steps : List Step} (hf : StepsFormed named steps)
    {set : ValueSet} (hs : set.Within P) : Ensures (ValueSet.Within P) (s.evalSteps steps set) := by
  apply evalSteps _ hs
  intro step hm
  rcases hf step hm with ha | formed
  · exact h.anchor ha step.position
  · exact h.node formed step.position

end Keeps

end Scope

/-! ### Paths of the policy -/

variable {named : String → Prop} {P : Json → Prop} {p : Policy} {functions : Registry}
  {document : Json}

/-- The document and the value that the policy substitutes are in a hereditary class. -/
structure Policy.Within (p : Policy) (P : Json → Prop) (document : Json) : Prop where
  hereditary : Json.Hereditary P
  document : P document
  substitute {v : Json} : p.fallback.last = .substitute v → P v

theorem Scope.keeps_of_enter {level : Nat} (hp : p.Formed named) (h : p.Within P document)
    (enter : ∀ strict {q : Query}, q.IsPath named → Ensures (ValueSet.Within P)
      (enterPath p functions document level strict q.steps)) (strict : Bool) :
    (scopeAt p functions document level strict).Keeps P where
  hereditary := h.hereditary
  base := h.document
  substitute last := by
    cases strict with
    | true => cases last
    | false => exact h.substitute last
  target found := enter strict (hp.target found)
  alternate infer q hq := enter true (hp.alternate (policy_of_infer infer).1 hq)

/-- By induction on the level, each level entering paths of the one below. -/
theorem enterPath_ensures (hp : p.Formed named) (h : p.Within P document) (level : Nat)
    (strict : Bool) {q : Query} (hq : q.IsPath named) :
    Ensures (ValueSet.Within P) (enterPath p functions document level strict q.steps) := by
  induction level generalizing strict q with
  | zero => exact .error _
  | succ level ih =>
      have keeps : (scopeAt p functions document level strict).Keeps P :=
        Scope.keeps_of_enter hp h ih strict
      rw [enterPath]
      exact keeps.formedSteps hq.stepsFormed (ValueSet.within_single h.document)

theorem scopeAt_keeps (hp : p.Formed named) (h : p.Within P document) (level : Nat)
    (strict : Bool) : (scopeAt p functions document level strict).Keeps P :=
  Scope.keeps_of_enter hp h (fun strict _ hq => enterPath_ensures hp h level strict hq) strict

end PathQuery
