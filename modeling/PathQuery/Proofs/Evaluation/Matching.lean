import PathQuery.Proofs.Evaluation.Fusion

/-!
Patterns over arrays. `matches` tells of each element of a definite array whether it is a text that
the pattern matches, and so it does of the values of a set that is not definite. But one result of a
definite input is definite, as it has to be for a text, also if the input is an array of one
element. Such an array gives a value in the end where its element, fanned out, gives a list; for
arrays of all other lengths there is no difference.
-/

namespace PathQuery

/-- Whether the value is a text that the pattern matches. -/
def Regex.accepts (re : Regex) : Json → Bool
  | .string text => re.isMatch text
  | _ => false

theorem Regex.accepts_iff {re : Regex} {v : Json} :
    re.accepts v = true ↔ ∃ text, v = .string text ∧ re.isMatch text = true := by
  cases v <;> simp [accepts]

/-- A call of `matches` with a pattern as it is written. -/
def Node.matching (pattern : String) : Node :=
  .call "matches" [.literal (.string pattern)]

/-- A truth value for each element. -/
def Regex.results (re : Regex) (xs : List Json) : List Json :=
  xs.map fun v => .bool (re.accepts v)

theorem Regex.length_results (re : Regex) (xs : List Json) :
    (re.results xs).length = xs.length :=
  List.length_map _

theorem Regex.results_true_iff {re : Regex} {xs : List Json} {i : Nat} :
    (re.results xs)[i]? = some (.bool true) ↔
      ∃ text, xs[i]? = some (.string text) ∧ re.isMatch text = true := by
  rw [results, List.getElem?_map, Option.map_eq_some_iff]
  constructor
  · rintro ⟨v, hv, holds⟩
    obtain ⟨text, rfl, matched⟩ := accepts_iff.1 (Json.bool.inj holds)
    exact ⟨text, hv, matched⟩
  · rintro ⟨text, hv, matched⟩
    exact ⟨_, hv, congrArg Json.bool matched⟩

variable {pattern : String} {re : Regex}

theorem Call.matchesRegex_eq {c : Call} (literal : c.scalarArgument = .ok (.string pattern))
    (valid : Regex.parse? pattern = some re) :
    c.matchesRegex = .ok (c.perItem (re.results c.input.items)) := by
  unfold matchesRegex
  rw [literal]
  simp only [bind, Except.bind, valid]
  refine congrArg (fun values => Except.ok (c.perItem values)) (List.map_congr_left fun v _ => ?_)
  cases v <;> rfl

/-- One result for each element of the input. -/
theorem Registry.invoke_matching {r : Registry}
    (standard : r.find? "matches" = Registry.standard.find? "matches") {arg : Argument}
    {input : ValueSet} (literal : arg.operand input = .ok (some (.string pattern)))
    (valid : Regex.parse? pattern = some re) :
    r.invoke ⟨"matches", [arg], input⟩ =
      .ok ⟨re.results input.items, input.items.length == 1 && input.definite⟩ := by
  have argument : Call.scalarArgument ⟨"matches", [arg], input⟩ = .ok (.string pattern) := by
    change (arg.operand input >>= _) = _
    rw [literal]
    rfl
  rw [Registry.invoke_of_standard standard]
  change Call.matchesRegex _ = _
  rw [Call.matchesRegex_eq argument valid, Call.perItem, Regex.length_results]

section

variable {s : Scope} (standard : s.functions.find? "matches" = Registry.standard.find? "matches")
  (valid : Regex.parse? pattern = some re) (position : Nat)

include standard valid

theorem Scope.evalStep_matching (set : ValueSet) : s.evalStep (.matching pattern) position set =
    .ok ⟨re.results set.items, set.items.length == 1 && set.definite⟩ := by
  rw [Node.matching, evalStep, evalArguments_eq_map]
  refine Registry.invoke_matching standard ?_ valid
  change s.operand (.literal (.string pattern)) set = _
  rw [operand]

theorem Scope.evalStep_matching_array (xs : List Json) :
    s.evalStep (.matching pattern) position (.single (.array xs)) =
      .ok ⟨re.results xs, xs.length == 1⟩ := by
  rw [evalStep_matching standard valid, ValueSet.items_array, ValueSet.single, Bool.and_true]

theorem Scope.evalStep_matching_many (xs : List Json) :
    s.evalStep (.matching pattern) position (.many xs) = .ok (.many (re.results xs)) := by
  rw [evalStep_matching standard valid, ValueSet.items_many, ValueSet.many, Bool.and_false]
  rfl

end

/-! ### Outputs -/

theorem Output.ofValueSet_many (values : List Json) :
    ofValueSet (.many values) = .values values := by
  match values with
  | [] | [_] | _ :: _ :: _ => rfl

/-- Only one result is a value. -/
theorem Output.ofValueSet_eq_values_iff {values : List Json} :
    ofValueSet ⟨values, values.length == 1⟩ = .values values ↔ values.length ≠ 1 := by
  match values with
  | [] => exact iff_of_true rfl (by decide)
  | [v] => exact iff_of_false nofun (not_not_intro rfl)
  | v :: w :: rest => exact iff_of_true rfl (by simp)

namespace Engine

section

variable {e : Engine} {path : List Step} {document : Json} {xs : List Json}
  (standard : e.functions.find? "matches" = Registry.standard.find? "matches")
  (valid : Regex.parse? pattern = some re)
  (array : e.evalQuery ⟨path⟩ document = .ok (.value (.array xs))) (position position' : Nat)

include standard valid array

theorem evalQuery_matching :
    e.evalQuery ⟨path ++ [⟨.matching pattern, position⟩]⟩ document =
      .ok (.ofValueSet ⟨re.results xs, (re.results xs).length == 1⟩) := by
  rw [evalQuery_append array, Scope.evalSteps_singleton,
    Scope.evalStep_matching_array standard valid, Regex.length_results]
  · rfl
  · simp [Node.matching, Node.innerSteps, Policy.stepTarget?]
  · simp [Node.matching, Node.isCondition]

theorem evalQuery_wildcard_matching :
    e.evalQuery ⟨path ++ [⟨.wildcard, position⟩, ⟨.matching pattern, position'⟩]⟩ document =
      .ok (.values (re.results xs)) := by
  rw [evalQuery_append array, Scope.evalSteps_wildcard, Scope.evalSteps_singleton,
    Scope.evalStep_matching_many standard valid]
  · exact congrArg Except.ok (Output.ofValueSet_many _)
  · simp [Node.matching, Node.innerSteps, Policy.stepTarget?]
  · simp [Node.matching, Node.isCondition]

end

/-- There is a result for each element, and it is the same for an array as for its elements fanned
out. The output is a list in both cases but for an array of one element, which gives a value. -/
theorem matches_array_exact {e : Engine}
    (standard : e.functions.find? "matches" = Registry.standard.find? "matches")
    (valid : Regex.parse? pattern = some re) (xs : List Json) :
    (re.results xs).length = xs.length ∧
    (∀ i : Nat, (re.results xs)[i]? = some (.bool true) ↔
      ∃ text, xs[i]? = some (.string text) ∧ re.isMatch text = true) ∧
    (∀ base, e.invoke "matches" [.literal (.string pattern)] base (.single (.array xs)) =
        .ok ⟨re.results xs, xs.length == 1⟩ ∧
      e.invoke "matches" [.literal (.string pattern)] base (.many xs) =
        .ok (.many (re.results xs))) ∧
    ∀ path document, e.evalQuery ⟨path⟩ document = .ok (.value (.array xs)) →
      ∀ position position',
        e.evalQuery ⟨path ++ [⟨.wildcard, position⟩, ⟨.matching pattern, position'⟩]⟩ document =
          .ok (.values (re.results xs)) ∧
        (e.evalQuery ⟨path ++ [⟨.matching pattern, position'⟩]⟩ document =
          .ok (.values (re.results xs)) ↔ xs.length ≠ 1) ∧
        ∀ x, xs = [x] → e.evalQuery ⟨path ++ [⟨.matching pattern, position'⟩]⟩ document =
          .ok (.value (.bool (re.accepts x))) := by
  refine ⟨re.length_results xs, fun i => Regex.results_true_iff, fun base => ?_, ?_⟩
  · have array := Scope.evalStep_matching_array (s := e.scope base) standard valid 0 xs
    have many := Scope.evalStep_matching_many (s := e.scope base) standard valid 0 xs
    rw [Node.matching, Scope.evalStep] at array many
    exact ⟨array, many⟩
  · intro path document array position position'
    have opened := evalQuery_matching standard valid array position'
    refine ⟨evalQuery_wildcard_matching standard valid array position position', ?_, ?_⟩
    · rw [opened, Except.ok.injEq, Output.ofValueSet_eq_values_iff, Regex.length_results]
    · rintro x rfl
      exact opened

/-- A number is an element that no pattern matches. -/
theorem matches_array_exact_pair :
    let e := ofPolicy .standard
    let document : Json := .object [("tags", .array [.string "ab", .number (.int 1)])]
    ∃ re, e.functions.find? "matches" = Registry.standard.find? "matches" ∧
      Regex.parse? "^a" = some re ∧
      e.evalQuery ⟨[⟨.root, 0⟩, ⟨.property "tags", 2⟩]⟩ document =
        .ok (.value (.array [.string "ab", .number (.int 1)])) ∧
      e.evalQuery ⟨[⟨.root, 0⟩, ⟨.property "tags", 2⟩, ⟨.matching "^a", 7⟩]⟩ document =
        .ok (.values [.bool true, .bool false]) := by
  intro e document
  have valid : Regex.parse? "^a" = some (.seq (.look .textStart) (.literal ['a'])) := rfl
  obtain ⟨-, -, -, outputs⟩ :=
    matches_array_exact (e := e) rfl valid [.string "ab", .number (.int 1)]
  obtain ⟨-, list, -⟩ := outputs [⟨.root, 0⟩, ⟨.property "tags", 2⟩] document rfl 6 7
  exact ⟨_, rfl, valid, rfl, list.2 (by decide)⟩

end Engine

/-- One element as it is, and fanned out. -/
theorem matches_single_element :
    evaluate "$.matches(\"a\")" (.array [.string "a"]) .standard = .ok (.value (.bool true)) ∧
      evaluate "$[*].matches(\"a\")" (.array [.string "a"]) .standard =
        .ok (.values [.bool true]) := by
  have ⟨validated, single, fannedOut⟩ : Config.validate .standard = .ok .standard ∧
      Query.parse "$.matches(\"a\")" =
        .ok ⟨[⟨.root, 0⟩, ⟨.call "matches" [.literal (.string "a")], 2⟩]⟩ ∧
      Query.parse "$[*].matches(\"a\")" =
        .ok ⟨[⟨.root, 0⟩, ⟨.wildcard, 1⟩, ⟨.call "matches" [.literal (.string "a")], 5⟩]⟩ :=
    ⟨rfl, by cbv, by cbv⟩
  rw [evaluate_of_parse validated single, evaluate_of_parse validated fannedOut]
  exact ⟨by cbv, by cbv⟩

end PathQuery
