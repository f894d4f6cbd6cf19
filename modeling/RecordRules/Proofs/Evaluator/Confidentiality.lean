import RecordRules.Proofs.Evaluator.Contents
import RecordRules.Proofs.Plan.Preparation
import RecordRules.Proofs.Record.Agreement

/-!
# Fields that may only be written are not observed

Two records that agree where they may be read get the same answers, down to the reports
on the way to them, from every evaluator whose registry has built-in strategies only,
under whatever names.  A strategy made elsewhere may look into records as it likes.
-/

namespace RecordRules

namespace Registry

/-- Whether every strategy is that of a built-in operator, under whatever name. -/
def OnlyBuiltIn (registry : Registry) : Prop :=
  ∀ name strategy, registry.strategy? name = some strategy →
    ∃ operator : Operator, strategy = operator.build

theorem onlyBuiltIn_empty : empty.OnlyBuiltIn := by
  intro name strategy found
  cases found

theorem OnlyBuiltIn.register {registry : Registry} (only : registry.OnlyBuiltIn) (name : String)
    (operator : Operator) : (registry.register name operator.build).OnlyBuiltIn := by
  intro other strategy found
  by_cases same : other = name
  · subst same
    rw [strategy?_register_self] at found
    exact ⟨operator, (Option.some.inj found).symm⟩
  · rw [strategy?_register_of_ne registry same] at found
    exact only other strategy found

end Registry

/-- Whether two records agree in every field of a schema that may be read. -/
def Record.AgreesWith (first second : Record) (schema : Schema) : Prop :=
  Value.AgreeOn schema.catalog schema.root first.value second.value

section Indifference

variable {schema : Schema} {registry : Registry} {first second : Record}

/-- A check of a built-in operator holds of both records or of neither. -/
theorem Check.holds_eq_of_agree (only : registry.OnlyBuiltIn)
    (agree : first.AgreesWith second schema) {criterion : Criterion} {check : Check}
    (prepared : (criterion.prepare schema registry).value = .ok check) :
    check.holds first = check.holds second := by
  obtain ⟨strategy, leaf, test, found, resolved, made, rfl⟩ :=
    Criterion.prepare_eq_ok_iff.mp prepared
  obtain ⟨operator, rfl⟩ := only _ _ found
  have alike := (Schema.resolve_eq_ok_iff.mp resolved).alike agree
  have passes := alike.passes_eq (Operator.madeFor_of_build made)
  simp only [Check.holds]
  cases test.constant? with
  | some result => rfl
  | none => exact passes

theorem prepareAll_holds_eq_of_agree (only : registry.OnlyBuiltIn)
    (agree : first.AgreesWith second schema) {criteria : List Criterion} {checks : List Check}
    (prepared : (prepareAll schema registry criteria).value = .ok checks) :
    ∀ check ∈ checks, check.holds first = check.holds second := by
  -- The checks stand beside their criteria, and the induction is on the pairs.
  have pairs := prepareAll_eq_ok_iff.mp prepared
  clear prepared
  induction pairs with
  | nil =>
      intro check member
      cases member
  | cons preparedFirst _ ih =>
      intro check member
      rcases List.mem_cons.mp member with rfl | later
      · exact Check.holds_eq_of_agree only agree preparedFirst
      · exact ih check later

theorem Plan.answers_eq_of_agree (only : registry.OnlyBuiltIn)
    (agree : first.AgreesWith second schema) {rule : Rule} {plan : Plan}
    (prepared : (rule.prepare schema registry).value = .ok plan) :
    plan.holds first = plan.holds second ∧ plan.explain first = plan.explain second := by
  obtain ⟨checks, preparedAll, rfl⟩ := Rule.prepare_eq_ok_iff.mp prepared
  have holds := prepareAll_holds_eq_of_agree only agree preparedAll
  have outcomes : checks.map (·.outcome first) = checks.map (·.outcome second) := by
    apply List.map_congr_left
    intro check member
    simp only [Check.outcome, holds check member]
  constructor
  · have same : checks.map (·.holds first) = checks.map (·.holds second) :=
      List.map_congr_left holds
    have all := congrArg (List.all · id) same
    simpa only [Plan.holds, List.all_map, Function.id_comp] using all
  · simp only [Plan.explain, outcomes]

/-- The preparation of a rule, done or failed, answers alike about both records. -/
theorem Rule.prepared_answers_eq_of_agree (only : registry.OnlyBuiltIn)
    (agree : first.AgreesWith second schema) (rule : Rule) :
    (rule.prepare schema registry).value.map (·.holds first) =
        (rule.prepare schema registry).value.map (·.holds second) ∧
      (rule.prepare schema registry).value.map (·.explain first) =
        (rule.prepare schema registry).value.map (·.explain second) := by
  cases prepared : (rule.prepare schema registry).value with
  | error error => exact ⟨rfl, rfl⟩
  | ok plan =>
      obtain ⟨holds, explain⟩ := Plan.answers_eq_of_agree only agree prepared
      simp only [Except.map, holds, explain, and_self]

end Indifference

namespace Cache

variable {schema : Schema} {registry : Registry} {rules : List HeldRule} {cache : Cache}
  {first second : Record}

theorem Represents.held_answers_eq (represents : cache.Represents schema registry rules)
    (only : registry.OnlyBuiltIn) (agree : first.AgreesWith second schema) {handle : Nat}
    {plan : Except RuleError Plan} (found : planOf? cache.plans handle = some plan) :
    plan.map (·.holds first) = plan.map (·.holds second) ∧
      plan.map (·.explain first) = plan.map (·.explain second) := by
  rw [represents.planOf?_eq] at found
  obtain ⟨held, -, -, rfl⟩ := exists_of_firstPlan? found
  exact held.rule.prepared_answers_eq_of_agree only agree

theorem Represents.matchesRule_eq (represents : cache.Represents schema registry rules)
    (only : registry.OnlyBuiltIn) (agree : first.AgreesWith second schema) (held : HeldRule) :
    cache.matchesRule first held = cache.matchesRule second held := by
  cases found : planOf? cache.plans held.handle with
  | some plan =>
      obtain ⟨holds, -⟩ := represents.held_answers_eq only agree found
      simp only [matchesRule, found, holds]
  | none =>
      obtain ⟨holds, -⟩ := held.rule.prepared_answers_eq_of_agree only agree
      simp only [matchesRule, found, represents.schema_eq, represents.registry_eq, holds]

theorem Represents.explain_eq (represents : cache.Represents schema registry rules)
    (only : registry.OnlyBuiltIn) (agree : first.AgreesWith second schema) (held : HeldRule) :
    cache.explain first held = cache.explain second held := by
  cases found : planOf? cache.plans held.handle with
  | some plan =>
      obtain ⟨-, explain⟩ := represents.held_answers_eq only agree found
      simp only [Cache.explain, found, explain]
  | none =>
      obtain ⟨-, explain⟩ := held.rule.prepared_answers_eq_of_agree only agree
      simp only [Cache.explain, found, represents.schema_eq, represents.registry_eq,
        Logged.map, explain]

theorem Represents.matchingRules_eq (represents : cache.Represents schema registry rules)
    (only : registry.OnlyBuiltIn) (agree : first.AgreesWith second schema) :
    cache.matchingRules first = cache.matchingRules second := by
  have among : ∀ listed : List HeldRule,
      cache.matchingAmong first listed = cache.matchingAmong second listed := by
    intro listed
    induction listed with
    | nil => rfl
    | cons held rest ih =>
        simp only [matchingAmong, represents.matchesRule_eq only agree held, ih]
  exact among cache.rules

end Cache

/-- Records that agree wherever a schema lets them be read get the same answers from evaluators
of either kind, as long as all strategies are built in. -/
theorem answers_eq_of_agree_where_readable {schema : Schema} (rules : List HeldRule)
    {options : Options} (only : options.registry.OnlyBuiltIn) {first second : Record}
    (agree : first.AgreesWith second schema) :
    (∀ evaluator, (Evaluator.withOptions schema rules options).value = .ok evaluator →
      (∀ held, evaluator.matchesRule (some first) held =
        evaluator.matchesRule (some second) held) ∧
      evaluator.matchingRules (some first) = evaluator.matchingRules (some second) ∧
      ∀ held, evaluator.explain first held = evaluator.explain second held) ∧
    (first.type = schema.root → second.type = schema.root →
      let evaluator : LiveEvaluator := ⟨schema.catalog, rules, options⟩
      (∀ held, evaluator.matchesRule (some first) held =
        evaluator.matchesRule (some second) held) ∧
      evaluator.matchingRules (some first) = evaluator.matchingRules (some second) ∧
      ∀ held, evaluator.explain first held = evaluator.explain second held) := by
  constructor
  · intro evaluator built
    have represents := Evaluator.represents_of_built built
    exact ⟨represents.matchesRule_eq only agree, represents.matchingRules_eq only agree,
      represents.explain_eq only agree⟩
  · intro firstType secondType evaluator
    have firstCache : evaluator.cacheFor first = Cache.ofRulesChecked schema rules options := by
      simp only [LiveEvaluator.cacheFor, evaluator, firstType]
    have secondCache : evaluator.cacheFor second = Cache.ofRulesChecked schema rules options := by
      simp only [LiveEvaluator.cacheFor, evaluator, secondType]
    simp only [LiveEvaluator.matchesRule, LiveEvaluator.matchingRules, LiveEvaluator.explain,
      firstCache, secondCache]
    cases checked : (Cache.ofRulesChecked schema rules options).value with
    | error error =>
        simp only [Logged.andThenOk_of_error checked, implies_true, and_self]
    | ok cache =>
        have represents := Cache.represents_of_checked checked
        simp only [Logged.andThenOk_of_ok checked, represents.matchesRule_eq only agree,
          represents.matchingRules_eq only agree, represents.explain_eq only agree,
          implies_true, and_self]

/-- Two users whose accounts differ in their passwords are answered alike. -/
theorem answers_eq_of_different_passwords :
    let account : List (Field FieldType) :=
      [⟨"Password", .scalar .text, false, false⟩, ⟨"Name", .scalar .text, false, true⟩]
    let schema : Schema :=
      ⟨fun _ => default, ⟨"User", [⟨"Account", .inline "Account" account, true, true⟩]⟩⟩
    let user (password : Value) : Record :=
      ⟨schema.root, [.record ⟨"Account", account⟩ [password, .text "Ada"]]⟩
    let rules : List HeldRule := [⟨1, ⟨"known", [⟨"Account.Name", "Is", some "Ada"⟩]⟩⟩]
    let options : Options := { registry := Registry.empty.register "Is" Operator.equal.build }
    let evaluator : Evaluator := ⟨(Cache.ofRules schema rules options).value⟩
    options.registry.OnlyBuiltIn ∧
      (user (.text "secret")).AgreesWith (user .null) schema ∧
      (Evaluator.withOptions schema rules options).value = .ok evaluator ∧
      evaluator.matchingRules (some (user (.text "secret"))) =
        evaluator.matchingRules (some (user .null)) := by
  intro account schema user rules options evaluator
  have only : options.registry.OnlyBuiltIn := Registry.onlyBuiltIn_empty.register "Is" .equal
  have agree : (user (.text "secret")).AgreesWith (user .null) schema := by
    refine .fields ?_
    rintro (_ | slot) field stands readable
    · obtain rfl := Option.some.inj stands
      refine .records fun inner refers => .fields ?_
      obtain rfl := Option.some.inj refers
      rintro (_ | _ | slot) field stands readable
      · obtain rfl := Option.some.inj stands
        cases readable
      · exact .same (.refl _)
      · cases stands
    · cases stands
  have built : (Evaluator.withOptions schema rules options).value = .ok evaluator := rfl
  obtain ⟨answers, -⟩ := answers_eq_of_agree_where_readable rules only agree
  obtain ⟨-, matching, -⟩ := answers evaluator built
  exact ⟨only, agree, built, matching⟩

end RecordRules
