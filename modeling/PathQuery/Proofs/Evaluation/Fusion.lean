import PathQuery.Proofs.Evaluation.Elementwise
import PathQuery.Proofs.Evaluation.MissPosition

/-!
Mapping a path over an array. The function `map` evaluates its argument on one element after the
other and puts the results together; a wildcard hands the elements on, and the steps behind it are
evaluated on all of them at once. For paths without calls both are the path evaluated on a set that
is not definite. So two maps in a row are one, and one is a wildcard with the path behind it.
-/

namespace PathQuery

open Outcome (Agree collect)

/-- The step calls `map` with the path of these nodes from each element, wherever it is written. -/
inductive Maps (nodes : List Node) : Step → Prop
  | mk (position inner : Nat) {path : List Step} : path.map Located.node = nodes →
      Maps nodes ⟨.call "map" [.path (⟨.current, inner⟩ :: path)], position⟩

/-- The path of `p` and then `q` over the elements of an array: mapped one after the other, mapped
as one, or behind a wildcard. -/
inductive OverElements (p q : List Node) : List Step → Prop
  | inTurn {first second : Step} : Maps p first → Maps q second → OverElements p q [first, second]
  | atOnce {step : Step} : Maps (p ++ q) step → OverElements p q [step]
  | spread (position : Nat) {path : List Step} : path.map Located.node = p ++ q →
      OverElements p q (⟨.wildcard, position⟩ :: path)

/-! ### Calls of `map` -/

theorem Call.map_eq_collect (name : String) (arg : Argument) (input : ValueSet) :
    Call.map ⟨name, [arg], input⟩ = do
      return .many (← collect (fun item => (arg.evaluate (.single item)).map ValueSet.values)
        input.items) := by
  rw [Outcome.collect_map, bind_assoc]
  rfl

namespace Scope

variable {s : Scope}

/-- Steps with the same nodes do the same at other positions, but for the position of a miss. -/
theorem evalSteps_relocated {steps steps' : List Step}
    (same : steps.map Located.node = steps'.map Located.node) (set : ValueSet) :
    Agree (s.evalSteps steps set) (s.evalSteps steps' set) := by
  induction steps generalizing steps' set with
  | nil =>
      obtain rfl := List.map_eq_nil_iff.1 same.symm
      exact .refl _
  | cons step rest ih =>
      obtain ⟨⟨node, position⟩, rest', rfl, hn, hr⟩ := List.map_eq_cons_iff.1 same.symm
      dsimp only at hn
      subst hn
      rw [evalSteps, evalSteps]
      have moved : Agree (s.evalStep step.node step.position set)
          (s.evalStep step.node position set) :=
        .of_below (evalStep_moved set) (evalStep_moved set)
      exact moved.bind fun set' => ih hr.symm set'

/-- An argument that goes on from the current values. -/
theorem evaluate_relative (name : String) (inner : Nat) (path : List Step) (set : ValueSet) :
    (s.argument name (.path (⟨.current, inner⟩ :: path))).evaluate set = s.evalSteps path set := by
  show s.evalNested name (.path (⟨.current, inner⟩ :: path)) set = _
  rw [evalNested, evalSteps, evalStep]
  rfl

variable {p q : List Node} (map : s.functions.find? "map" = Registry.standard.find? "map")

include map

/-- A path is mapped over the items of a set as it is evaluated on all of them. -/
theorem evalSteps_maps (selectors : ∀ n ∈ p, n.isSelector = true) {step : Step}
    (maps : Maps p step) {path : List Step} (nodes : path.map Located.node = p) (set : ValueSet) :
    Agree (s.evalSteps [step] set) (s.evalSteps path (.many set.items)) := by
  obtain @⟨position, inner, written, same⟩ := maps
  rw [← same, List.forall_mem_map] at selectors
  calc
    s.evalSteps [⟨.call "map" [.path (⟨.current, inner⟩ :: written)], position⟩] set
    _ = (do
          return .many (← collect (fun item => (s.evalSteps written (.single item)).map
            ValueSet.values) set.items)) := by
        rw [evalSteps_singleton, evalStep, Registry.invoke_of_standard map, evalArguments_eq_map]
        simp only [← evaluate_relative "map" inner written]
        exact Call.map_eq_collect _ _ set
    Agree _ (do return .many (← collect (s.follow written) set.items)) := by
        refine (Agree.collect (fun item => ?_) _).bind fun _ => .refl _
        rw [← Outcome.collect_singleton (f := s.follow written)]
        exact .of_eq_ok_iff fun _ => values_evalSteps_eq_ok_iff selectors
    _ = s.followAll written (.many set.items) := (followAll_many written set.items).symm
    Agree _ (s.evalSteps written (.many set.items)) := (evalSteps_agree_followAll selectors _).symm
    Agree _ (s.evalSteps path (.many set.items)) := evalSteps_relocated (same.trans nodes.symm) _

/-- What a path gives for the items of an array is not definite, and so it is not opened when the
next path is mapped over it. -/
theorem evalSteps_maps_maps (selectors : ∀ n ∈ p ++ q, n.isSelector = true) {first second : Step}
    (maps : Maps p first) (maps' : Maps q second) {path : List Step}
    (nodes : path.map Located.node = p ++ q) (set : ValueSet) :
    Agree (s.evalSteps [first, second] set) (s.evalSteps path (.many set.items)) := by
  obtain ⟨front, back, rfl, hf, hb⟩ := List.map_eq_append_iff.1 nodes
  rw [List.forall_mem_append] at selectors
  have onFront : Agree (s.evalSteps front (.many set.items))
      (s.followAll front (.many set.items)) :=
    evalSteps_agree_followAll (List.forall_mem_map.1 (hf ▸ selectors.1)) _
  calc
    s.evalSteps [first, second] set
    _ = (do s.evalSteps [second] (← s.evalSteps [first] set)) :=
        s.evalSteps_append [first] [second] set
    Agree _ (do s.evalSteps [second] (← s.followAll front (.many set.items))) :=
        ((evalSteps_maps map selectors.1 maps hf set).trans onFront).bind fun _ => .refl _
    _ = (do s.evalSteps [second] (.many (← collect (s.follow front) set.items))) := by
        simp only [followAll_many, bind_assoc, pure_bind]
    Agree _ (do s.evalSteps back (.many (← collect (s.follow front) set.items))) := by
        refine (Agree.refl _).bind fun found => ?_
        simpa using evalSteps_maps map selectors.2 maps' hb (.many found)
    _ = (do s.evalSteps back (← s.followAll front (.many set.items))) := by
        simp only [followAll_many, bind_assoc, pure_bind]
    Agree _ (do s.evalSteps back (← s.evalSteps front (.many set.items))) :=
        onFront.symm.bind fun _ => .refl _
    _ = s.evalSteps (front ++ back) (.many set.items) := (s.evalSteps_append front back _).symm

omit map

theorem evalSteps_wildcard (position : Nat) (path : List Step) (xs : List Json) :
    s.evalSteps (⟨.wildcard, position⟩ :: path) (.single (.array xs)) =
      s.evalSteps path (.many xs) := by
  rw [evalSteps, evalStep_of_isSelector rfl, applyStep_eq_collect, bind_assoc, ValueSet.single,
    Outcome.collect_singleton]
  rfl

include map

theorem evalSteps_overElements (selectors : ∀ n ∈ p ++ q, n.isSelector = true) {steps : List Step}
    (h : OverElements p q steps) {path : List Step} (nodes : path.map Located.node = p ++ q)
    (xs : List Json) :
    Agree (s.evalSteps steps (.single (.array xs))) (s.evalSteps path (.many xs)) := by
  cases h with
  | inTurn maps maps' => exact evalSteps_maps_maps map selectors maps maps' nodes _
  | atOnce maps => exact evalSteps_maps map selectors maps nodes _
  | spread position written =>
      rw [evalSteps_wildcard]
      exact evalSteps_relocated (written.trans nodes.symm) _

end Scope

/-! ### Paths over the elements of an array -/

variable {p q : List Node} {policy : Policy}

theorem Maps.noAlias (selectors : ∀ n ∈ p, n.isSelector = true)
    (named : ∀ n ∈ p, policy.stepTarget? n = none) {step : Step} (h : Maps p step) :
    ∀ s ∈ Node.withInnerSteps [step], policy.stepTarget? s.node = none := by
  obtain @⟨position, inner, path, rfl⟩ := h
  have inside := Node.forall_withInnerSteps_of_isSelector selectors named
  simpa [Node.innerSteps, Policy.stepTarget?] using inside

theorem OverElements.noAlias (selectors : ∀ n ∈ p ++ q, n.isSelector = true)
    (named : ∀ n ∈ p ++ q, policy.stepTarget? n = none) {steps : List Step}
    (h : OverElements p q steps) :
    ∀ s ∈ Node.withInnerSteps steps, policy.stepTarget? s.node = none := by
  cases h with
  | inTurn maps maps' =>
      rw [List.forall_mem_append] at selectors named
      have front := maps.noAlias selectors.1 named.1
      have back := maps'.noAlias selectors.2 named.2
      rw [Node.withInnerSteps_eq_flatMap, List.flatMap_singleton] at front back
      rw [Node.withInnerSteps_eq_flatMap, List.flatMap_cons, List.flatMap_singleton,
        List.forall_mem_append]
      exact ⟨front, back⟩
  | atOnce maps => exact maps.noAlias selectors named
  | spread position nodes =>
      rw [← nodes] at selectors named
      rw [Node.withInnerSteps, List.forall_mem_cons]
      exact ⟨rfl, Node.forall_withInnerSteps_of_isSelector selectors named⟩

theorem OverElements.noCondition (selectors : ∀ n ∈ p ++ q, n.isSelector = true)
    {steps : List Step} (h : OverElements p q steps) :
    ∀ step ∈ steps, step.node.isCondition = false := by
  cases h with
  | inTurn maps maps' =>
      cases maps
      cases maps'
      simp [Node.isCondition]
  | atOnce maps =>
      cases maps
      simp [Node.isCondition]
  | spread position nodes =>
      rw [← nodes] at selectors
      rw [List.forall_mem_cons]
      exact ⟨rfl, fun step hs =>
        Node.isCondition_of_isSelector (selectors _ (List.mem_map_of_mem hs))⟩

/-- A path over the elements of an array gives the same whether it is mapped in two parts, mapped
as one, or put behind a wildcard, or else it gives nothing in any of these forms. This holds behind
each path whose value is one definite array, and behind each query whose value is an array. -/
theorem Engine.evaluate_overElements (e : Engine)
    (map : e.functions.find? "map" = Registry.standard.find? "map") (base : Json)
    (selectors : ∀ n ∈ p ++ q, n.isSelector = true) {steps steps' : List Step}
    (form : OverElements p q steps) (form' : OverElements p q steps') (path : List Step)
    (xs : List Json) :
    (∀ current, e.evalPath path base current = .ok (.single (.array xs)) →
      Agree (e.evalPath (path ++ steps) base current) (e.evalPath (path ++ steps') base current)) ∧
    ((∀ n ∈ p ++ q, e.policy.stepTarget? n = none) →
      e.evalQuery ⟨path⟩ base = .ok (.value (.array xs)) →
        Agree (e.evalQuery ⟨path ++ steps⟩ base) (e.evalQuery ⟨path ++ steps'⟩ base)) := by
  obtain ⟨written, nodes⟩ : ∃ written : List Step, written.map Located.node = p ++ q :=
    ⟨(p ++ q).map (⟨·, 0⟩), by simp [Function.comp_def]⟩
  have same : Agree ((e.scope base).evalSteps steps (.single (.array xs)))
      ((e.scope base).evalSteps steps' (.single (.array xs))) :=
    (Scope.evalSteps_overElements map selectors form nodes xs).trans
      (Scope.evalSteps_overElements map selectors form' nodes xs).symm
  constructor
  · intro current value
    rw [evalPath_append value, evalPath_append value]
    exact same
  · intro named value
    rw [evalQuery_append value (form.noAlias selectors named) (form.noCondition selectors),
      evalQuery_append value (form'.noAlias selectors named) (form'.noCondition selectors)]
    exact same.bind fun _ => .refl _

/-- The three forms as texts, over two objects of which one has no member `a` and is skipped, with a
key group that names an alias. -/
theorem Engine.evaluate_overElements_texts :
    let e := ofPolicy ⟨[⟨"u", ⟨[⟨.root, 0⟩, ⟨.property "w", 2⟩]⟩⟩], .plain .skip, .standard⟩
    let xs : List Json := [.object [("a", .array [.object [("b", .bool true)], .null])],
      .object [("b", .null)]]
    let document : Json := .object [("w", .string "W"), ("xs", .array xs)]
    let path : List Step := [⟨.root, 0⟩, ⟨.property "xs", 2⟩]
    let p : List Node := [.property "a", .wildcard]
    let q : List Node := [.multiKey ["u", "b"]]
    ∃ inTurn atOnce spread,
      Query.parse "$.xs.map(.a.*).map({u,b})" = .ok ⟨path ++ inTurn⟩ ∧
      Query.parse "$.xs.map(.a.*{u,b})" = .ok ⟨path ++ atOnce⟩ ∧
      Query.parse "$.xs[*].a.*{u,b}" = .ok ⟨path ++ spread⟩ ∧
      e.functions.find? "map" = Registry.standard.find? "map" ∧
      (∀ n ∈ p ++ q, n.isSelector = true) ∧ (∀ n ∈ p ++ q, e.policy.stepTarget? n = none) ∧
      OverElements p q inTurn ∧ OverElements p q atOnce ∧ OverElements p q spread ∧
      e.evalQuery ⟨path⟩ document = .ok (.value (.array xs)) ∧
      ∀ steps ∈ [inTurn, atOnce, spread], e.evalQuery ⟨path ++ steps⟩ document =
        .ok (.values [.string "W", .bool true, .string "W"]) := by
  intro e xs document path p q
  have selectors : ∀ n ∈ p ++ q, n.isSelector = true := by decide
  have named : ∀ n ∈ p ++ q, e.policy.stepTarget? n = none := by decide
  have inTurn : OverElements p q
      [⟨.call "map" [.path [⟨.current, 9⟩, ⟨.property "a", 10⟩, ⟨.wildcard, 11⟩]], 5⟩,
        ⟨.call "map" [.path [⟨.current, 19⟩, ⟨.multiKey ["u", "b"], 19⟩]], 15⟩] :=
    .inTurn (.mk 5 9 rfl) (.mk 15 19 rfl)
  have atOnce : OverElements p q [⟨.call "map" [.path [⟨.current, 9⟩, ⟨.property "a", 10⟩,
      ⟨.wildcard, 11⟩, ⟨.multiKey ["u", "b"], 13⟩]], 5⟩] :=
    .atOnce (.mk 5 9 rfl)
  have spread : OverElements p q
      [⟨.wildcard, 4⟩, ⟨.property "a", 8⟩, ⟨.wildcard, 9⟩, ⟨.multiKey ["u", "b"], 11⟩] :=
    .spread 4 rfl
  refine ⟨_, _, _, by cbv, by cbv, by cbv, rfl, selectors, named, inTurn, atOnce, spread, rfl, ?_⟩
  have same {steps : List Step} (form : OverElements p q steps) :=
    ((evaluate_overElements e rfl document selectors spread form path xs).2 named rfl).eq_ok_iff
      (.values [.string "W", .bool true, .string "W"])
  simp only [List.forall_mem_cons]
  exact ⟨(same inTurn).1 rfl, (same atOnce).1 rfl, rfl, List.forall_mem_nil _⟩

end PathQuery
