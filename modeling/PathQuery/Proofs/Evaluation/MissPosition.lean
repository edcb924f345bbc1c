import PathQuery.Command.Check
import PathQuery.Proofs.Evaluation.Depth
import PathQuery.Proofs.Evaluation.Placement
import PathQuery.Proofs.Query.Positions

/-!
Where a miss is reported. A step of the query that does not resolve is reported at its position, and
so is a step of an alias that stands in the path of the query, since it takes the position of the
alias. Paths of aliases that are entered from a key group keep their positions, and so do the steps
inside the arguments of a spliced path; a miss there is the miss of the path by itself. So the
positions are those of the query, for all queries, exactly when no alias misses by itself.
-/

namespace PathQuery

open Outcome (HaltsIn)

/-! ### Moving the steps of a path -/

/-- A miss that is reported at the position. -/
def Halt.MissAt (position : Nat) (h : Halt) : Prop :=
  ∃ node, h = .error (.pathNotFound node position)

namespace Scope

variable {s : Scope} {n : Node} {position position' : Nat}

theorem recover_moved (key : Option String) (value : Json) :
    Outcome.Below (Halt.MissAt position) (s.recover ⟨⟨n, position⟩, key, value⟩)
      (s.recover ⟨⟨n, position'⟩, key, value⟩) := by
  have last (resort : LastResort) : Outcome.Below (Halt.MissAt position)
      (lastResort ⟨⟨n, position⟩, key, value⟩ resort)
      (lastResort ⟨⟨n, position'⟩, key, value⟩ resort) := by
    cases resort with
    | substitute _ | skip => exact .refl _
    | fail => exact .of_lost ⟨_, rfl⟩ _
  unfold recover
  split
  · exact last _
  · rename_i keys _ _ _
    rw [show s.alternateMember? ⟨⟨n, position⟩, key, value⟩ keys =
      s.alternateMember? ⟨⟨n, position'⟩, key, value⟩ keys from rfl]
    split
    · exact .refl _
    · refine (Outcome.Below.refl _).bind fun found => ?_
      split
      · exact .refl _
      · exact last _

theorem member_moved (name : String) (value : Json) :
    Outcome.Below (Halt.MissAt position) (s.member ⟨n, position⟩ name value)
      (s.member ⟨n, position'⟩ name value) := by
  unfold member
  dsimp only
  split
  · exact .refl _
  · exact recover_moved _ _

theorem select_moved (value : Json) :
    Outcome.Below (Halt.MissAt position) (s.select ⟨n, position⟩ value)
      (s.select ⟨n, position'⟩ value) := by
  unfold select
  dsimp only
  split
  · exact member_moved _ _
  · refine (Outcome.Below.mapM (fun name => ?_) _).bind fun _ => .refl _
    unfold groupMember
    split
    · exact .refl _
    · exact member_moved _ _
  · split
    · exact .refl _
    · exact recover_moved _ _
  · exact .refl _
  · exact .refl _
  · exact .refl _
  · exact recover_moved _ _

theorem evalStep_moved (set : ValueSet) :
    Outcome.Below (Halt.MissAt position) (s.evalStep n position set)
      (s.evalStep n position' set) := by
  unfold evalStep
  cases n with
  | property _ | index _ | slice _ | wildcard | multiKey _ | omission _ =>
      exact (Outcome.Below.mapM select_moved _).bind fun _ => .refl _
  | _ => exact .refl _

/-- Moving all steps of a path to one position changes nothing but misses of these steps. -/
theorem evalSteps_stepsAt (s : Scope) (target : Query) (position : Nat) (set : ValueSet) :
    Outcome.Below (Halt.MissAt position) (s.evalSteps (target.stepsAt position) set)
      (s.evalSteps target.steps set) := by
  obtain ⟨steps⟩ := target
  unfold Query.stepsAt
  dsimp only
  induction steps generalizing set with
  | nil => exact .refl _
  | cons step rest ih =>
      rw [List.map_cons, evalSteps, evalSteps]
      exact (evalStep_moved set).bind fun set' => ih set'

end Scope

/-! ### Positions of misses -/

variable {named : String → Prop} {p : Policy} {document : Json}

/-- The path of an alias, evaluated by itself, fails so. -/
def Policy.AliasFails (p : Policy) (document : Json) (error : QueryError) : Prop :=
  ∃ name target, p.target? name = some target ∧
    (Engine.ofPolicy p).evalPath target.steps document none = .fail error

/-- A miss is reported where a step of the query stands, or it is the miss of an alias. -/
theorem evalQuery_miss (hp : p.Formed named) {q : Query} (hq : q.Formed named) {node : Node}
    {position : Nat}
    (h : (Engine.ofPolicy p).evalQuery q document = .fail (.pathNotFound node position)) :
    (∃ step ∈ q.allSteps, step.position = position) ∨
      p.AliasFails document (.pathNotFound node position) := by
  let inQuery (position : Nat) : Prop := ∃ step ∈ q.allSteps, step.position = position
  let P (h : Halt) : Prop := ∀ node position, h = .error (.pathNotFound node position) →
    inQuery position ∨ p.AliasFails document (.pathNotFound node position)
  have scope : ((Engine.ofPolicy p).scope document).HaltsIn p inQuery P := {
    ordinary := by
      rintro _ ho node position rfl
      cases ho
    -- a miss of an alternate query is passed over, so the one that counts is that of the step
    recover := fun m hm => by
      refine Scope.recover_haltsIn ?_ fun _ q _ h _ fatal node position he => ?_
      · rintro node position ⟨⟩
        exact .inl hm
      · exact absurd he (fatal node position)
    enter := fun {name target} ht => by
      rintro _ he node position rfl
      exact .inr ⟨name, target, ht, (enterPath_eq_evalPath p _ document false _).symm.trans he⟩
    spliced := fun {n target at_} ht hs set => by
      rintro _ he node position rfl
      rcases Scope.evalSteps_stepsAt _ target at_ set with same | ⟨_, ⟨_, rfl⟩, miss⟩
      · obtain ⟨name, named⟩ := Policy.target?_of_stepTarget? ht
        refine .inr ⟨name, target, named, ?_⟩
        -- the path of an alias does not depend on what it is spliced behind
        obtain ⟨rootPosition, path, hr, -⟩ := hp.stepTarget ht
        rw [same] at he
        unfold Engine.evalPath
        rw [hr, Scope.evalSteps_root] at he ⊢
        exact he
      · rw [he] at miss
        cases miss
        exact .inl hs }
  have halts := Engine.evalQuery_haltsIn (e := Engine.ofPolicy p) hp hq scope
    fun step hs => ⟨step, hs, rfl⟩
  exact halts _ h node position rfl

/-! ### A key group behind blanks -/

section

open Scanner Grammar

/-- A key group with one name, in quotes, as far to the right as one likes. -/
def groupText (blanks : Nat) (name : String) : String :=
  String.ofList (List.replicate blanks ' ' ++ '$' :: '{' :: (Json.quote name.toList ++ ['}']))

theorem tokens_blanks (blanks : Nat) (cs : List Char) (offset : Nat) (dot : Bool) :
    (⟨⟨List.replicate blanks ' ' ++ cs, offset⟩, dot⟩ : Scanner).tokens =
      (⟨⟨cs, offset + blanks⟩, dot⟩ : Scanner).tokens := by
  induction blanks generalizing offset with
  | zero => rfl
  | succ n ih =>
      rw [List.replicate_succ, List.cons_append, tokens_eq, next_blank, ← tokens_eq, ih,
        Nat.add_assoc, Nat.add_comm 1 n]

theorem spells_quotedGroup (name : String) :
    Spells false ('$' :: '{' :: (Json.quote name.toList ++ ['}']))
      [lexeme .root "$", lexeme .openBrace "\x7b", lexeme .string name, lexeme .closeBrace "\x7d"]
      false [] :=
  (spells_single "$" rfl rfl _ _).cons <| (spells_single "\x7b" rfl rfl _ _).cons <|
    (spells_string name _ _).cons (spells_single "\x7d" rfl rfl _ _)

theorem tokenize_groupText (blanks : Nat) (name : String) :
    ∃ root opening key closing finish : Token,
      tokenize (groupText blanks name) = .ok ([root, opening, key, closing] ++ [finish]) ∧
        root.kind = .root ∧ opening.kind = .openBrace ∧ (key.kind = .string ∧ key.text = name) ∧
          closing.kind = .closeBrace ∧ finish.kind = .finish := by
  obtain ⟨finish, scans⟩ := spells_quotedGroup name (0 + blanks)
  obtain ⟨us, same, -, tokens⟩ := scans.tokens
  simp only [List.map_eq_cons_iff, List.map_eq_nil_iff] at same
  obtain ⟨root, _, rfl, hr, opening, _, rfl, ho, key, _, rfl, hk, closing, _, rfl, hc, rfl⟩ := same
  have last : (⟨⟨[], finish⟩, false⟩ : Scanner).tokens = .ok [⟨.finish, "", finish⟩] := by
    rw [tokens_eq]
    rfl
  refine ⟨root, opening, key, closing, ⟨.finish, "", finish⟩, ?_, ?_⟩
  · rw [tokenize, ofString, groupText, String.toList_ofList, tokens_blanks, tokens, last]
    rfl
  · exact ⟨congrArg Token.kind hr, congrArg Token.kind ho,
      ⟨congrArg Token.kind hk, congrArg Token.text hk⟩, congrArg Token.kind hc, rfl⟩

/-- The steps stand behind the blanks. -/
theorem parse_groupText (blanks : Nat) (name : String) :
    ∃ at_ at', Query.parse (groupText blanks name) =
        .ok ⟨[⟨.root, at_⟩, ⟨.multiKey [name], at'⟩]⟩ ∧ blanks ≤ at_ ∧ blanks ≤ at' := by
  obtain ⟨root, opening, key, closing, finish, tokenized, hr, ho, ⟨hk, rfl⟩, hc, hf⟩ :=
    tokenize_groupText blanks name
  have group : Group [opening, key, closing] [key.text] :=
    .mk ho (.one (by simp [isKey, hk])) hc
  have derived : DerivesQuery finish.position ([root] ++ ([] ++ ([opening, key, closing] ++ [])))
      ⟨[⟨.root, root.position⟩, ⟨.multiKey [key.text], opening.position⟩]⟩ :=
    .mk (.inr ⟨root, hr, rfl⟩) .none (.moreSteps (.group group) .noSteps) .none
  -- the grammar gives the tree, the scanner the positions
  refine ⟨root.position, opening.position, ?_, ?_⟩
  · rw [parse_of_tokenize tokenized, ofTokens_append_finish hf, query_iff]
    · exact derived
    · simp [hr, ho, hk, hc]
  · rw [tokenize, ofString, groupText, String.toList_ofList, tokens_blanks] at tokenized
    have position := tokens_position tokenized
    have first := position root (by simp)
    have second := position opening (by simp)
    exact ⟨by simpa using first.1, by simpa using second.1⟩

end

/-- A key group that names an alias fails as the path of the alias does. -/
theorem evalQuery_group {name : String} {target : Query} (ht : p.target? name = some target)
    {error : QueryError}
    (h : (Engine.ofPolicy p).evalPath target.steps document none = .fail error) (at_ at' : Nat) :
    (Engine.ofPolicy p).evalQuery ⟨[⟨.root, at_⟩, ⟨.multiKey [name], at'⟩]⟩ document =
      .fail error := by
  rw [(Engine.ofPolicy p).evalQuery_groupKey ht]
  show (enterPath p .standard document p.levels false target.steps >>= _) = _
  rw [enterPath_eq_evalPath]
  show ((Engine.ofPolicy p).evalPath target.steps document none >>= _) = _
  rw [h]
  rfl

/-- Under a validated configuration, a miss that a query text fails with is reported at the position
of a step of the query, and so within the text, or it is the miss of an alias whose path fails by
itself. Of each alias that does there is a text that fails with the same miss, at no position of
its query. -/
theorem miss_position_exact (c : Config) (p : Policy) (document : Json) (hc : c.validate = .ok p) :
    (∀ text node position, evaluate text document c = .fail (.pathNotFound node position) →
      ∃ q, Query.parse text = .ok q ∧
        ((∃ step ∈ q.allSteps, step.position = position) ∧ position ≤ text.utf8ByteSize ∨
          p.AliasFails document (.pathNotFound node position))) ∧
    ∀ node position, p.AliasFails document (.pathNotFound node position) →
      ∃ text q, Query.parse text = .ok q ∧
        evaluate text document c = .fail (.pathNotFound node position) ∧
          ∀ step ∈ q.allSteps, step.position ≠ position := by
  constructor
  · intro text node position h
    cases hq : Query.parse text with
    | error e =>
        unfold evaluate at h
        rw [hc, hq] at h
        cases h
    | ok q =>
        rw [evaluate_of_parse hc hq] at h
        refine ⟨q, rfl, ?_⟩
        rcases evalQuery_miss (Config.formed_of_validate hc) (formed_of_parse hq) h with
          ⟨step, hs, rfl⟩ | fails
        · exact .inl ⟨⟨step, hs, rfl⟩, position_le_of_parse hq step hs⟩
        · exact .inr fails
  · rintro node position ⟨name, target, ht, fails⟩
    -- a group with the name of the alias, moved to the right of the position
    obtain ⟨at_, at', parsed, first, second⟩ := parse_groupText (position + 1) name
    refine ⟨_, _, parsed, ?_, ?_⟩
    · rw [evaluate_of_parse hc parsed, evalQuery_group ht fails]
    · intro step hs
      rw [Query.allSteps, Node.withInnerSteps_eq_flatMap] at hs
      simp only [Node.innerSteps, List.flatMap_cons, List.flatMap_nil, List.mem_append,
        List.mem_cons, List.not_mem_nil, or_false] at hs
      rcases hs with rfl | rfl
      · exact (Nat.ne_of_lt first).symm
      · exact (Nat.ne_of_lt second).symm

theorem validate_theme : Config.validate ⟨[⟨"u", "$.settings.theme"⟩], .standard, .standard⟩ = .ok
    ⟨[⟨"u", ⟨[⟨.root, 0⟩, ⟨.property "settings", 2⟩, ⟨.property "theme", 11⟩]⟩⟩], .error,
      .standard⟩ := by
  cbv

/-- Settings without a theme, and an alias for the theme. -/
theorem miss_position_theme :
    ∃ p text q, Config.validate ⟨[⟨"u", "$.settings.theme"⟩], .standard, .standard⟩ = .ok p ∧
      p.AliasFails (.object [("settings", .object [])]) (.pathNotFound (.property "theme") 11) ∧
      Query.parse text = .ok q ∧
      evaluate text (.object [("settings", .object [])])
        ⟨[⟨"u", "$.settings.theme"⟩], .standard, .standard⟩ =
          .fail (.pathNotFound (.property "theme") 11) ∧
      ∀ step ∈ q.allSteps, step.position ≠ 11 := by
  have exact_ := miss_position_exact _ _ (.object [("settings", .object [])]) validate_theme
  have fails : Policy.AliasFails ⟨[⟨"u", ⟨[⟨.root, 0⟩, ⟨.property "settings", 2⟩,
      ⟨.property "theme", 11⟩]⟩⟩], .error, .standard⟩ (.object [("settings", .object [])])
      (.pathNotFound (.property "theme") 11) := ⟨"u", _, rfl, rfl⟩
  obtain ⟨text, q, parsed, evaluated, outside⟩ := exact_.2 _ _ fails
  exact ⟨_, text, q, validate_theme, fails, parsed, evaluated, outside⟩

/-- A group of four bytes that fails at position 11. -/
theorem group_miss_outside :
    ∃ q, Query.parse "${u}" = .ok q ∧ "${u}".utf8ByteSize = 4 ∧
      evaluate "${u}" (.object [("settings", .object [])])
        ⟨[⟨"u", "$.settings.theme"⟩], .standard, .standard⟩ =
          .fail (.pathNotFound (.property "theme") 11) ∧
      ∀ step ∈ q.allSteps, step.position ≠ 11 := by
  have parsed : Query.parse "${u}" = .ok ⟨[⟨.root, 0⟩, ⟨.multiKey ["u"], 1⟩]⟩ := by cbv
  refine ⟨_, parsed, rfl, ?_, ?_⟩
  · rw [evaluate_of_parse validate_theme parsed]
    rfl
  · decide

end PathQuery
