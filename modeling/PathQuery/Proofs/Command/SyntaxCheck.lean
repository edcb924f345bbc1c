import PathQuery.Command.Check
import PathQuery.Proofs.Evaluation.Acyclic
import PathQuery.Proofs.Evaluation.Endless
import PathQuery.Proofs.Evaluation.Placement

/-!
Checking the syntax alone against a whole check. Queries and configurations that are not well formed
are rejected before anything is evaluated, and an evaluation rejects nothing, so both checks reject
the same for the same reason.
-/

namespace PathQuery

/-- The query or the configuration is not well formed. -/
inductive QueryError.Rejects : QueryError → Prop
  | syntaxError (e : SyntaxError) : Rejects (.syntaxError e)
  | invalidConfig (fault : ConfigFault) : Rejects (.invalidConfig fault)

/-- An evaluation that halts like this has rejected nothing. -/
inductive Halt.Accepting : Halt → Prop
  | error {e : QueryError} : ¬ e.Rejects → Accepting (.error e)
  | circular : Accepting .circular
  | disorder {items : List Json} : ¬ Call.isSortable items → Accepting (.disorder items)

theorem Halt.Ordinary.accepting {h : Halt} (ho : h.Ordinary) : h.Accepting := by
  cases ho with
  | mismatch _ | unknownFunction _ | arity _ _ _ _ => exact .error nofun
  | disorder open_ => exact .disorder open_

theorem CommandError.exitCode_query_of_rejects {e : QueryError} (h : e.Rejects) :
    (CommandError.query e).exitCode = 2 := by
  cases h with
  | syntaxError _ | invalidConfig _ => rfl

theorem CommandError.exitCode_query_of_not_rejects {e : QueryError} (h : ¬ e.Rejects) :
    (CommandError.query e).exitCode = 1 := by
  cases e with
  | syntaxError s => exact absurd (.syntaxError s) h
  | invalidConfig f => exact absurd (.invalidConfig f) h
  | pathNotFound | typeMismatch | unknownFunction | arity => rfl

/-! ### Evaluation -/

section

variable {c : Config} {p : Policy} {text : String} {q : Query} {document : Json}

theorem evalQuery_accepting (validated : c.validate = .ok p) (parsed : Query.parse text = .ok q) :
    Outcome.HaltsIn Halt.Accepting ((Engine.ofPolicy p).evalQuery q document) :=
  Engine.formed_haltsIn (fun _ ho => ho.accepting) (fun _ _ => .error nofun) .circular
    (Config.formed_of_validate validated) (formed_of_parse parsed) false

/-! ### Commands -/

theorem loadConfig_error {config : Option String} {e : CommandError}
    (h : loadConfig config = .error e) : e.exitCode = 2 := by
  unfold loadConfig at h
  split at h
  · cases h
  · split at h
    · cases h
    · cases h
      rfl

/-- What the syntax check rejects is rejected for the same reason when it is evaluated. -/
theorem evaluate_of_checkSyntax_error {e : CommandError} (h : checkSyntax text c = .error e) :
    ∃ reason : QueryError, reason.Rejects ∧ e = .query reason ∧
      evaluate text document c = .fail reason := by
  unfold checkSyntax at h
  split at h
  · rename_i fault invalid
    cases h
    exact ⟨_, .invalidConfig fault, rfl, by rw [evaluate, invalid]⟩
  · rename_i p validated
    split at h
    · rename_i s unparsable
      cases h
      exact ⟨_, .syntaxError s, rfl, by simp only [evaluate, validated, unparsable]⟩
    · cases h

theorem evaluate_of_checkSyntax_ok (h : checkSyntax text c = .ok ()) :
    ∃ p q, c.validate = .ok p ∧ Query.parse text = .ok q ∧
      evaluate text document c = (Engine.ofPolicy p).evalQuery q document := by
  unfold checkSyntax at h
  split at h
  · cases h
  · rename_i p validated
    split at h
    · cases h
    · rename_i q parsed
      exact ⟨p, q, validated, parsed, evaluate_of_parse validated parsed document⟩

end

namespace CheckRequest

variable {query : String} {config input : Option String} {c : Config}

theorem run_of_unloaded {syntaxOnly : Bool} {e : CommandError} (h : loadConfig config = .error e) :
    run ⟨query, input, config, syntaxOnly⟩ = .error (.error e) := by
  rw [run, h]
  rfl

theorem run_syntaxOnly (h : loadConfig config = .ok c) : run ⟨query, input, config, true⟩ =
    ((checkSyntax query c).mapError CommandHalt.error).map fun _ => .syntaxValid := by
  rw [run, h]
  change ((checkSyntax query c).mapError CommandHalt.error >>= _) = _
  cases checkSyntax query c with
  | ok _ => rfl
  | error _ => rfl

/-- What the syntax check accepts, and that it can only fail with an error. -/
theorem run_syntaxOnly_cases (query : String) (config input : Option String) :
    (∃ e, run ⟨query, input, config, true⟩ = .error (.error e)) ∨
      (run ⟨query, input, config, true⟩ = .ok .syntaxValid ∧
        ∃ c, loadConfig config = .ok c ∧ checkSyntax query c = .ok ()) := by
  cases loaded : loadConfig config with
  | error e => exact .inl ⟨e, run_of_unloaded loaded⟩
  | ok c =>
      rw [run_syntaxOnly loaded]
      cases checked : checkSyntax query c with
      | error e => exact .inl ⟨e, rfl⟩
      | ok _ => exact .inr ⟨rfl, c, rfl, checked⟩

variable {text : String} {document : Json} (read : Json.read? text = some document)

include read

theorem run_whole (h : loadConfig config = .ok c) : run ⟨query, some text, config, false⟩ =
    ((evaluate query document c).mapError CommandHalt.ofHalt).map CheckResult.output := by
  simp only [run, h, read, bind, Except.bind, Except.mapError]
  cases evaluate query document c <;> rfl

theorem run_of_rejected {e : CommandError}
    (h : run ⟨query, input, config, true⟩ = .error (.error e)) :
    run ⟨query, some text, config, false⟩ = .error (.error e) ∧ e.exitCode = 2 := by
  cases loaded : loadConfig config with
  | error e' =>
      rw [run_of_unloaded loaded] at h ⊢
      cases h
      exact ⟨rfl, loadConfig_error loaded⟩
  | ok c =>
      rw [run_syntaxOnly loaded] at h
      cases checked : checkSyntax query c with
      | ok _ =>
          rw [checked] at h
          cases h
      | error e' =>
          rw [checked] at h
          cases h
          obtain ⟨reason, rejects, rfl, rejected⟩ := evaluate_of_checkSyntax_error checked
          refine ⟨?_, CommandError.exitCode_query_of_rejects rejects⟩
          rw [run_whole read loaded, rejected]
          rfl

/-- How a whole check ends is how the evaluation ends, if the syntax is accepted. -/
theorem run_of_accepted (loaded : loadConfig config = .ok c)
    (checked : checkSyntax query c = .ok ()) :
    ∃ p q, c.validate = .ok p ∧ Query.parse query = .ok q ∧
      run ⟨query, some text, config, false⟩ = (((Engine.ofPolicy p).evalQuery q document).mapError
        CommandHalt.ofHalt).map CheckResult.output := by
  obtain ⟨p, q, validated, parsed, evaluated⟩ := evaluate_of_checkSyntax_ok checked
  exact ⟨p, q, validated, parsed, evaluated ▸ run_whole read loaded⟩

end CheckRequest

/-- The four ways in which an evaluation that rejects nothing ends a whole check. -/
theorem CommandHalt.cases_of_accepting {x : Outcome Output}
    (accepting : Outcome.HaltsIn Halt.Accepting x) {whole : Except CommandHalt CheckResult}
    (h : whole = (x.mapError ofHalt).map CheckResult.output) :
    ((∃ o, whole = .ok (.output o)) ∨ (∃ e, whole = .error (.error e) ∧ e.exitCode = 1) ∨
        whole = .error .overflow ∨ ∃ items, whole = .error (.disorder items)) ∧
      (whole = .error .overflow ↔ x = .error .circular) ∧
      ∀ items, whole = .error (.disorder items) → ¬ Call.isSortable items := by
  subst h
  match x with
  | .ok o => exact ⟨.inl ⟨o, rfl⟩, ⟨nofun, nofun⟩, nofun⟩
  | .error h =>
      match h, accepting h rfl with
      | .error e, .error accepted =>
          refine ⟨.inr (.inl ⟨.query e, rfl, ?_⟩), ⟨nofun, nofun⟩, nofun⟩
          exact CommandError.exitCode_query_of_not_rejects accepted
      | .circular, .circular => exact ⟨.inr (.inr (.inl rfl)), ⟨fun _ => rfl, fun _ => rfl⟩, nofun⟩
      | .disorder items, .disorder open_ =>
          refine ⟨.inr (.inr (.inr ⟨items, rfl⟩)), ⟨nofun, nofun⟩, ?_⟩
          rintro _ ⟨⟩
          exact open_

/-- A whole check rejects the query or the configuration just when the syntax check does, with the
same error. Otherwise it gives an output, or fails in another way with the exit code 1, or the
process is aborted: by an evaluation that nests beyond every bound, which takes aliases that refer
to each other in a circle, or by a sort of items about which nothing is settled. -/
theorem syntax_check_exact (query : String) (config input : Option String) {text : String}
    {document : Json} (read : Json.read? text = some document) :
    let whole := CheckRequest.run ⟨query, some text, config, false⟩
    let syntaxOnly := CheckRequest.run ⟨query, input, config, true⟩
    (∀ e, whole = .error (.error e) ∧ e.exitCode = 2 ↔ syntaxOnly = .error (.error e)) ∧
    ((∃ e, syntaxOnly = .error (.error e)) ∨ syntaxOnly = .ok .syntaxValid ∧
      ∃ c p q, loadConfig config = .ok c ∧ c.validate = .ok p ∧ Query.parse query = .ok q ∧
        ((∃ o, whole = .ok (.output o)) ∨ (∃ e, whole = .error (.error e) ∧ e.exitCode = 1) ∨
          whole = .error .overflow ∨ ∃ items, whole = .error (.disorder items)) ∧
        (whole = .error .overflow ↔
          ∀ n, (Engine.ofPolicy p).evalQueryWithin n q document = .error .circular) ∧
        (whole = .error .overflow → ¬ p.Acyclic) ∧
        ∀ items, whole = .error (.disorder items) → ¬ Call.isSortable items) ∧
    ∀ c p q document e, Config.validate c = .ok p → Query.parse query = .ok q →
      (Engine.ofPolicy p).evalQuery q document = .error (.error e) →
        (∀ s, e ≠ .syntaxError s) ∧ ∀ fault, e ≠ .invalidConfig fault := by
  intro whole syntaxOnly
  refine ⟨fun e => ⟨fun ⟨failed, code⟩ => ?_, CheckRequest.run_of_rejected read⟩, ?_,
    fun c p q document e validated parsed he => ?_⟩
  · rcases CheckRequest.run_syntaxOnly_cases query config input with
      ⟨e', rejected⟩ | ⟨-, c, loaded, checked⟩
    · have same := (CheckRequest.run_of_rejected read rejected).1
      rw [show whole = .error (.error e') from same] at failed
      cases failed
      exact rejected
    · -- no other failure has the code
      obtain ⟨p, q, validated, parsed, run⟩ := CheckRequest.run_of_accepted read loaded checked
      have ends := CommandHalt.cases_of_accepting (evalQuery_accepting validated parsed) run
      rcases ends.1 with ⟨o, other⟩ | ⟨e', other, one⟩ | other | ⟨items, other⟩
      all_goals rw [show whole = _ from other] at failed
      all_goals cases failed
      rw [one] at code
      cases code
  · refine (CheckRequest.run_syntaxOnly_cases query config input).imp_right ?_
    rintro ⟨accepted, c, loaded, checked⟩
    obtain ⟨p, q, validated, parsed, run⟩ := CheckRequest.run_of_accepted read loaded checked
    obtain ⟨ends, overflow, disorder⟩ :=
      CommandHalt.cases_of_accepting (evalQuery_accepting validated parsed) run
    refine ⟨accepted, c, p, q, loaded, validated, parsed, ends, ?_, fun halted acyclic => ?_,
      disorder⟩
    · exact overflow.trans ((Engine.ofPolicy p).evalQuery_circular_iff q document)
    · exact evalQuery_ends .standard document acyclic false q (overflow.1 halted)
  · cases evalQuery_accepting validated parsed _ he with
    | error accepted =>
        constructor
        · rintro s rfl
          exact accepted (.syntaxError s)
        · rintro fault rfl
          exact accepted (.invalidConfig fault)

/-- A single equals sign is rejected by both checks; a member that the document lacks is no matter of
syntax. -/
theorem syntax_check_exact_single_equals :
    ∃ document, Json.read? "[]" = some document ∧
      (∃ e, CheckRequest.run ⟨"=", none, none, true⟩ = .error (.error e) ∧
        CheckRequest.run ⟨"=", some "[]", none, false⟩ = .error (.error e) ∧ e.exitCode = 2) ∧
      ∃ p q e, Config.validate .standard = .ok p ∧ Query.parse "$.a" = .ok q ∧
        (Engine.ofPolicy p).evalQuery q document = .error (.error e) ∧
        (∀ s, e ≠ .syntaxError s) ∧ ∀ fault, e ≠ .invalidConfig fault := by
  have read : Json.read? "[]" = some (.array []) := by
    cbv
  have rejected : CheckRequest.run ⟨"=", none, none, true⟩ =
      .error (.error (.query (.syntaxError ⟨.singleEquals, 0⟩))) := by
    cbv
  have parsed : Query.parse "$.a" = .ok ⟨[⟨.root, 0⟩, ⟨.property "a", 2⟩]⟩ := by
    cbv
  have validated : Config.validate .standard = .ok ⟨[], .error, .standard⟩ := rfl
  have missed : (Engine.ofPolicy ⟨[], .error, .standard⟩).evalQuery
      ⟨[⟨.root, 0⟩, ⟨.property "a", 2⟩]⟩ (.array []) =
        .error (.error (.pathNotFound (.property "a") 2)) := rfl
  have whole := ((syntax_check_exact "=" none none read).1 _).2 rejected
  exact ⟨_, read, ⟨_, rejected, whole⟩, _, _, _, validated, parsed, missed,
    (syntax_check_exact "$.a" none none read).2.2 _ _ _ _ _ validated parsed missed⟩

theorem validate_self_reference :
    Config.validate ⟨[⟨"u", "$\x7bu\x7d"⟩], .standard, .standard⟩ =
      .ok ⟨[⟨"u", ⟨[⟨.root, 0⟩, ⟨.multiKey ["u"], 1⟩]⟩⟩], .error, .standard⟩ := by
  cbv

/-- An alias whose path names the alias itself, in a key group. The syntax is accepted, and the whole
check neither succeeds nor fails with an exit code: no bound on the nesting is enough. -/
theorem syntax_check_overflow :
    let config := "\x7b\"aliases\":[\x7b\"alias\":\"u\",\"path\":\"$\x7bu\x7d\"\x7d]\x7d"
    let whole := CheckRequest.run ⟨"$.u", some "\x7b\x7d", some config, false⟩
    let document := Json.object []
    Json.read? "\x7b\x7d" = some document ∧
      CheckRequest.run ⟨"$.u", none, some config, true⟩ = .ok .syntaxValid ∧
      ¬ ((∃ r, whole = .ok r) ∨ ∃ e, whole = .error (.error e) ∧ e.exitCode = 1) ∧
      whole = .error .overflow ∧
      ∃ c p q, loadConfig config = .ok c ∧ c.validate = .ok p ∧ Query.parse "$.u" = .ok q ∧
        ∀ n, (Engine.ofPolicy p).evalQueryWithin n q document = .error .circular := by
  intro config whole document
  have ⟨read, loaded, parsed⟩ : Json.read? "\x7b\x7d" = some document ∧
      loadConfig config = .ok ⟨[⟨"u", "$\x7bu\x7d"⟩], .standard, .standard⟩ ∧
      Query.parse "$.u" = .ok ⟨[⟨.root, 0⟩, ⟨.property "u", 2⟩]⟩ :=
    ⟨by cbv, by cbv, by cbv⟩
  have circular : (Engine.ofPolicy ⟨[⟨"u", ⟨[⟨.root, 0⟩, ⟨.multiKey ["u"], 1⟩]⟩⟩], .error,
      .standard⟩).evalQuery ⟨[⟨.root, 0⟩, ⟨.property "u", 2⟩]⟩ document = .error .circular := rfl
  have checked : checkSyntax "$.u" ⟨[⟨"u", "$\x7bu\x7d"⟩], .standard, .standard⟩ = .ok () := by
    rw [checkSyntax, validate_self_reference, parsed]
  have aborted : whole = .error .overflow := by
    rw [show whole = _ from CheckRequest.run_whole read loaded,
      evaluate_of_parse validate_self_reference parsed, circular]
    rfl
  refine ⟨read, ?_, ?_, aborted, _, _, _, loaded, validate_self_reference, parsed,
    (Engine.evalQuery_circular_iff _ _ _).1 circular⟩
  · rw [CheckRequest.run_syntaxOnly loaded, checked]
    rfl
  · rw [aborted]
    rintro (⟨_, ⟨⟩⟩ | ⟨_, ⟨⟩, _⟩)

end PathQuery
