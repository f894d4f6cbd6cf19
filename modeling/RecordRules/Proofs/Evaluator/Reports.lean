import RecordRules.Proofs.Evaluator.Distinct
import RecordRules.Proofs.Evaluator.Questions

/-!
# Reports are only reports

Findings about rules may be reported while the rules are prepared.  Whether they are
changes no construction and no answer, only the warnings of a construction.  These are
known for each of the different rules, in the order in which the rules first occur: its
findings, if they are reported, and then its error, if it cannot be prepared.
-/

namespace RecordRules

open HeldRule

def Event.warning? (event : Event) : Option LogEntry :=
  event.logEntry?.filter (·.level == .warning)

/-- The warnings about a rule: its findings, if they are reported, and its error. -/
def Rule.warnings (schema : Schema) (options : Options) (rule : Rule) : List LogEntry :=
  (if options.reportsFindings then
      (rule.findings options.registry.names).map fun finding =>
        ⟨.warning, s!"规则校验未通过: {finding.message}", some rule.name, none⟩
    else []) ++
  (rule.refusal? schema options.registry).toList.map fun error =>
    ⟨.warning, "规则编译失败", some rule.name, some error⟩

section Preparation

variable {schema : Schema} {registry : Registry}

theorem Criterion.warnings_prepare (criterion : Criterion) :
    (criterion.prepare schema registry).picked Event.warning? = [] := by
  unfold prepare
  split
  · rfl
  · split <;> rfl

theorem warnings_prepareAll (criteria : List Criterion) :
    (prepareAll schema registry criteria).picked Event.warning? = [] := by
  induction criteria with
  | nil => rfl
  | cons criterion rest ih =>
      rw [prepareAll, Logged.picked_andThenOk, criterion.warnings_prepare, List.nil_append]
      cases (criterion.prepare schema registry).value with
      | error error => rfl
      | ok check => exact ih

theorem Rule.warnings_prepare (rule : Rule) :
    (rule.prepare schema registry).picked Event.warning? = [] :=
  warnings_prepareAll rule.criteria

end Preparation

namespace Cache

variable {schema : Schema} {options : Options}

theorem warnings_criticism (rule : Rule) :
    (criticism options rule).filterMap Event.warning? =
      if options.reportsFindings then
        (rule.findings options.registry.names).map fun finding =>
          ⟨.warning, s!"规则校验未通过: {finding.message}", some rule.name, none⟩
      else [] := by
  unfold criticism
  split
  · rw [List.filterMap_map, ← List.filterMap_eq_map]
    rfl
  · rfl

theorem warnings_refusal (rule : Rule) :
    (refusal rule (rule.prepare schema options.registry).value).filterMap Event.warning? =
      (rule.refusal? schema options.registry).toList.map fun error =>
        ⟨.warning, "规则编译失败", some rule.name, some error⟩ := by
  rw [Rule.refusal?]
  cases (rule.prepare schema options.registry).value <;> rfl

/-- The preparation of a rule warns of its findings and of its error. -/
theorem warnings_prepareOne (rule : Rule) :
    (prepareOne schema options rule).events.filterMap Event.warning? =
      rule.warnings schema options := by
  have silent : (rule.prepare schema options.registry).picked Event.warning? = [] :=
    rule.warnings_prepare
  rw [Logged.picked] at silent
  simp only [prepareOne, List.filterMap_append, warnings_criticism, silent, List.append_nil,
    warnings_refusal, Rule.warnings]

theorem warnings_ofRulesChecked (schema : Schema) (rules : List HeldRule) (options : Options) :
    (ofRulesChecked schema rules options).picked Event.warning? =
      (distinct rules).flatMap (·.rule.warnings schema options) := by
  rw [ofRulesChecked, Logged.picked_map, Logged.picked, events_ofRules, List.filterMap_append,
    List.filterMap_flatMap]
  simp only [warnings_prepareOne]
  exact List.append_nil _

/-- Whether findings are reported has no part in the outcome of a construction. -/
theorem value_ofRulesChecked_reports (schema : Schema) (rules : List HeldRule)
    (registry : Registry) (strict : Bool) :
    (ofRulesChecked schema rules ⟨registry, strict, true⟩).value =
      (ofRulesChecked schema rules ⟨registry, strict, false⟩).value := by
  have same : (ofRules schema rules ⟨registry, strict, true⟩).value =
      (ofRules schema rules ⟨registry, strict, false⟩).value :=
    value_ofRules_of_registry_eq ⟨registry, strict, true⟩ ⟨registry, strict, false⟩ rfl rules
  simp only [ofRulesChecked, Logged.value_map, same]

variable (cache : Cache) (record : Record)

theorem warnings_matchesRule (held : HeldRule) :
    (cache.matchesRule record held).picked Event.warning? = [] := by
  unfold matchesRule
  split
  · rfl
  · exact held.rule.warnings_prepare

theorem warnings_matchingAmong (listed : List HeldRule) :
    (cache.matchingAmong record listed).picked Event.warning? = [] := by
  induction listed with
  | nil => rfl
  | cons held rest ih =>
      rw [matchingAmong, Logged.picked_andThenOk, cache.warnings_matchesRule, List.nil_append]
      cases (cache.matchesRule record held).value with
      | error error => rfl
      | ok holds => exact ih

theorem warnings_explain (held : HeldRule) :
    (cache.explain record held).picked Event.warning? = [] := by
  unfold explain
  split
  · rfl
  · exact held.rule.warnings_prepare

end Cache

namespace Evaluator

variable {rules : List HeldRule} {registry : Registry} {strict : Bool}

theorem value_withOptions_reports (schema : Schema) :
    (withOptions schema rules ⟨registry, strict, true⟩).value =
      (withOptions schema rules ⟨registry, strict, false⟩).value := by
  rw [value_withOptions, value_withOptions, Cache.value_ofRulesChecked_reports]

theorem value_session_reports (schema : Schema) (questions : List Question) :
    (session schema rules ⟨registry, strict, true⟩ questions).value =
      (session schema rules ⟨registry, strict, false⟩ questions).value := by
  rw [session, session, Logged.value_andThenOk, Logged.value_andThenOk,
    value_withOptions_reports]

theorem warnings_ask (evaluator : Evaluator) (question : Question) :
    (evaluator.ask question).picked Event.warning? = [] := by
  cases question with
  | matchesRule record held =>
      cases record with
      | none => rfl
      | some record => exact evaluator.cache.warnings_matchesRule record held
  | matchingRules record =>
      cases record with
      | none => rfl
      | some record => exact evaluator.cache.warnings_matchingAmong record evaluator.cache.rules
  | explain record held => exact evaluator.cache.warnings_explain record held

end Evaluator

namespace LiveEvaluator

variable {catalog : Catalog} {rules : List HeldRule} {registry : Registry} {strict : Bool}

theorem value_cacheFor_reports (record : Record) :
    (cacheFor ⟨catalog, rules, ⟨registry, strict, true⟩⟩ record).value =
      (cacheFor ⟨catalog, rules, ⟨registry, strict, false⟩⟩ record).value :=
  Cache.value_ofRulesChecked_reports ⟨catalog, record.type⟩ rules registry strict

theorem value_ask_reports (question : Question) :
    (ask ⟨catalog, rules, ⟨registry, strict, true⟩⟩ question).value =
      (ask ⟨catalog, rules, ⟨registry, strict, false⟩⟩ question).value := by
  cases question with
  | matchesRule record held =>
      cases record with
      | none => rfl
      | some record =>
          simp only [ask, matchesRule, Logged.value_map, Logged.value_andThenOk,
            value_cacheFor_reports]
  | matchingRules record =>
      cases record with
      | none => rfl
      | some record =>
          simp only [ask, matchingRules, Logged.value_map, Logged.value_andThenOk,
            value_cacheFor_reports]
  | explain record held =>
      simp only [ask, explain, Logged.value_map, Logged.value_andThenOk, value_cacheFor_reports]

theorem warnings_ask (live : LiveEvaluator) (question : Question) :
    (live.ask question).picked Event.warning? =
      question.record?.elim [] fun record =>
        (distinct live.rules).flatMap (·.rule.warnings (live.schemaOf record) live.options) := by
  cases present : question.record? with
  | none => exact live.picked_ask_of_absent Event.warning? present
  | some record =>
      have built : (Evaluator.withOptions (live.schemaOf record) live.rules live.options).picked
          Event.warning? =
            (distinct live.rules).flatMap (·.rule.warnings (live.schemaOf record) live.options) :=
        Cache.warnings_ofRulesChecked (live.schemaOf record) live.rules live.options
      rw [live.picked_ask_of_present Event.warning? present, built, Option.elim_some]
      cases (Evaluator.withOptions (live.schemaOf record) live.rules live.options).value with
      | error error => exact List.append_nil _
      | ok evaluator =>
          rw [Except.toOption, Option.elim_some, evaluator.warnings_ask, List.append_nil]

end LiveEvaluator

/-- Reporting findings changes no outcome of a construction and no answer.  A construction warns
of its different rules, each once, and a live evaluator does so at each question about a record. -/
theorem reports_change_only_warnings (rules : List HeldRule) (registry : Registry)
    (strict : Bool) :
    (∀ schema : Schema,
      (Evaluator.withOptions schema rules ⟨registry, strict, true⟩).value =
        (Evaluator.withOptions schema rules ⟨registry, strict, false⟩).value ∧
      ∀ questions, (Evaluator.session schema rules ⟨registry, strict, true⟩ questions).value =
        (Evaluator.session schema rules ⟨registry, strict, false⟩ questions).value) ∧
    (∀ (catalog : Catalog) (questions : List Question),
      (LiveEvaluator.session ⟨catalog, rules, ⟨registry, strict, true⟩⟩ questions).value =
        (LiveEvaluator.session ⟨catalog, rules, ⟨registry, strict, false⟩⟩ questions).value) ∧
    ∀ reports : Bool,
      (∀ schema : Schema,
        (Evaluator.withOptions schema rules ⟨registry, strict, reports⟩).picked Event.warning? =
          (distinct rules).flatMap (·.rule.warnings schema ⟨registry, strict, reports⟩)) ∧
      ∀ (catalog : Catalog) (questions : List Question),
        (LiveEvaluator.session ⟨catalog, rules, ⟨registry, strict, reports⟩⟩ questions).picked
            Event.warning? =
          questions.flatMap fun question => question.record?.elim [] fun record =>
            (distinct rules).flatMap
              (·.rule.warnings ⟨catalog, record.type⟩ ⟨registry, strict, reports⟩) := by
  refine ⟨?_, ?_, ?_⟩
  · intro schema
    exact ⟨Evaluator.value_withOptions_reports schema, Evaluator.value_session_reports schema⟩
  · intro catalog questions
    simp only [LiveEvaluator.session, Question.value_askAll, LiveEvaluator.value_ask_reports]
  · intro reports
    constructor
    · intro schema
      exact Cache.warnings_ofRulesChecked schema rules ⟨registry, strict, reports⟩
    · intro catalog questions
      simp only [LiveEvaluator.session, Question.picked_askAll, LiveEvaluator.warnings_ask]
      rfl

end RecordRules
