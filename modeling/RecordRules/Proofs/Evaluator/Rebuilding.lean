import RecordRules.Proofs.Evaluator.Selection

/-!
# Evaluators that are rebuilt for every question

An evaluator that takes the type from each record keeps no plans.  It answers as an
evaluator of the other kind does that is built for the one question, and whatever spoils
that construction is the answer.  What spoils it is strictness together with a rule that
cannot be prepared, so the answers of a live evaluator are known from the preparations of
its rules.
-/

namespace RecordRules

namespace HeldRule

theorem Faithful.of_cons {held : HeldRule} {rules : List HeldRule}
    (faithful : Faithful (held :: rules)) : Faithful rules := by
  intro first firstIn second secondIn
  exact faithful first (List.mem_cons_of_mem held firstIn)
    second (List.mem_cons_of_mem held secondIn)

end HeldRule

namespace Options

/-- The error with which options spoil a set of rules, which only strict ones do. -/
def spoiling? (options : Options) (schema : Schema) (rules : List HeldRule) :
    Option RuleError :=
  if options.strict then firstRefusal? schema options.registry rules else none

variable {options : Options} {schema : Schema} {rules : List HeldRule}

theorem spoiling?_of_lenient (lenient : options.strict = false) :
    options.spoiling? schema rules = none := by
  simp [spoiling?, lenient]

theorem spoiling?_of_strict (strict : options.strict = true) :
    options.spoiling? schema rules = firstRefusal? schema options.registry rules := by
  simp [spoiling?, strict]

theorem spoiling?_eq_some_iff {error : RuleError} :
    options.spoiling? schema rules = some error ↔
      options.strict = true ∧ firstRefusal? schema options.registry rules = some error := by
  cases strict : options.strict with
  | false => simp [spoiling?_of_lenient strict]
  | true => simp [spoiling?_of_strict strict]

end Options

theorem Cache.value_ofRulesChecked {schema : Schema} {rules : List HeldRule}
    (faithful : HeldRule.Faithful rules) (options : Options) :
    (ofRulesChecked schema rules options).value =
      match options.spoiling? schema rules with
      | none => .ok (ofRules schema rules options).value
      | some error => .error error := by
  cases strict : options.strict with
  | false => rw [value_ofRulesChecked_of_lenient strict, Options.spoiling?_of_lenient strict]
  | true =>
      rw [Options.spoiling?_of_strict strict]
      exact value_ofRulesChecked_of_strict strict faithful

theorem Evaluator.withOptions_eq_error_iff {schema : Schema} {rules : List HeldRule}
    (faithful : HeldRule.Faithful rules) {options : Options} {error : RuleError} :
    (withOptions schema rules options).value = .error error ↔
      options.spoiling? schema rules = some error := by
  rw [value_withOptions, Cache.value_ofRulesChecked faithful]
  cases options.spoiling? schema rules with
  | none => simp [Except.map]
  | some first => simp [Except.map]

namespace LiveEvaluator

/-- A live evaluator answers every question about a record as the evaluator does that is built
for it, and reports the construction as well. -/
structure AnswersAs (live : LiveEvaluator) (built : Logged (Except RuleError Evaluator))
    (record : Record) : Prop where
  matchesRule_eq : ∀ held, live.matchesRule (some record) held =
    built.andThenOk (·.matchesRule (some record) held)
  matchingRules_eq : live.matchingRules (some record) =
    built.andThenOk (·.matchingRules (some record))
  explain_eq : ∀ held, live.explain record held = built.andThenOk (·.explain record held)

/-- Every question about a record fails with one error, whichever rule it is about. -/
structure FailsWith (live : LiveEvaluator) (record : Record) (error : RuleError) : Prop where
  matchesRule_eq : ∀ held, (live.matchesRule (some record) held).value = .error error
  matchingRules_eq : (live.matchingRules (some record)).value = .error error
  explain_eq : ∀ held, (live.explain record held).value = .error error

/-- The rules are prepared as for an evaluator of the record's type. -/
theorem answersAs_withOptions {schema : Schema} (rules : List HeldRule) (options : Options)
    {record : Record} (typed : record.type = schema.root) :
    AnswersAs ⟨schema.catalog, rules, options⟩ (Evaluator.withOptions schema rules options)
      record := by
  have cache : cacheFor ⟨schema.catalog, rules, options⟩ record =
      Cache.ofRulesChecked schema rules options := by
    simp only [cacheFor, typed]
  -- Both fill the same cache, and only then is it asked for the answer.
  constructor
  · intro held
    simp only [matchesRule, cache, Evaluator.withOptions, Logged.map_andThenOk,
      Evaluator.matchesRule]
  · simp only [matchingRules, cache, Evaluator.withOptions, Logged.map_andThenOk,
      Evaluator.matchingRules]
  · intro held
    simp only [explain, cache, Evaluator.withOptions, Logged.map_andThenOk, Evaluator.explain]

theorem AnswersAs.failsWith {live : LiveEvaluator} {built : Logged (Except RuleError Evaluator)}
    {record : Record} (answers : live.AnswersAs built record) {error : RuleError}
    (failed : built.value = .error error) : live.FailsWith record error := by
  constructor
  · intro held
    rw [answers.matchesRule_eq, Logged.andThenOk_of_error failed]
  · rw [answers.matchingRules_eq, Logged.andThenOk_of_error failed]
  · intro held
    rw [answers.explain_eq, Logged.andThenOk_of_error failed]

section Answers

variable (live : LiveEvaluator) (record : Record)

def schemaOf : Schema :=
  ⟨live.catalog, record.type⟩

def prepared (held : HeldRule) : Except RuleError Plan :=
  (held.rule.prepare (live.schemaOf record) live.options.registry).value

/-- The error of the first rule that cannot be prepared for a record. -/
def refusal? : Option RuleError :=
  firstRefusal? (live.schemaOf record) live.options.registry live.rules

theorem value_cacheFor (faithful : HeldRule.Faithful live.rules) :
    (live.cacheFor record).value =
      match live.options.spoiling? (live.schemaOf record) live.rules with
      | none => .ok (Cache.ofRules (live.schemaOf record) live.rules live.options).value
      | some error => .error error :=
  Cache.value_ofRulesChecked faithful live.options

/-- A rule is explained from its own preparation, unless the set is spoiled. -/
theorem value_explain {held : HeldRule} (faithful : HeldRule.Faithful (held :: live.rules)) :
    (live.explain record held).value =
      match live.options.spoiling? (live.schemaOf record) live.rules with
      | none => (live.prepared record held).map (·.explain record)
      | some error => .error error := by
  have represents := Cache.represents_ofRules (live.schemaOf record) live.rules live.options
  rw [explain, Logged.value_andThenOk, value_cacheFor live record faithful.of_cons]
  cases live.options.spoiling? (live.schemaOf record) live.rules with
  | none => exact represents.value_explain faithful record
  | some error => rfl

theorem value_matchingRules (faithful : HeldRule.Faithful live.rules) :
    (live.matchingRules (some record)).value =
      match live.refusal? record with
      | none => .ok (live.rules.filter fun held =>
          (live.prepared record held).map (·.holds record) = .ok true)
      | some error => .error error := by
  have represents := Cache.represents_ofRules (live.schemaOf record) live.rules live.options
  have lenient := represents.value_matchingRules faithful record
  have answers : ∀ held ∈ live.rules,
      decide (((Cache.ofRules (live.schemaOf record) live.rules live.options).value.matchesRule
          record held).value = .ok true) =
        decide ((live.prepared record held).map (·.holds record) = .ok true) := by
    intro held member
    rw [represents.value_matchesRule (faithful.cons_mem member) record]
    rfl
  rw [List.filter_congr answers] at lenient
  rw [matchingRules, Logged.value_andThenOk, value_cacheFor live record faithful, refusal?]
  -- A refusal is met when a strict set is filled and when a lenient one is asked.
  cases strict : live.options.strict with
  | false =>
      rw [Options.spoiling?_of_lenient strict]
      exact lenient
  | true =>
      rw [Options.spoiling?_of_strict strict]
      cases refused : firstRefusal? (live.schemaOf record) live.options.registry live.rules with
      | none =>
          rw [refused] at lenient
          exact lenient
      | some error => rfl

end Answers

/-- Asking a live evaluator about a record is building an evaluator for the record's type and
asking that one.  The construction fails exactly if the options are strict and a rule cannot be
prepared. -/
theorem answers_eq_rebuilt (schema : Schema) (rules : List HeldRule) (options : Options) :
    let live : LiveEvaluator := ⟨schema.catalog, rules, options⟩
    let rebuilt := Evaluator.withOptions schema rules options
    (∀ record : Record, record.type = schema.root →
      live.AnswersAs rebuilt record ∧
      ∀ error, rebuilt.value = .error error → live.FailsWith record error) ∧
    (HeldRule.Faithful rules → ∀ error, rebuilt.value = .error error ↔
      options.strict = true ∧ firstRefusal? schema options.registry rules = some error) ∧
    (∀ held, live.matchesRule none held = .quiet (.ok false)) ∧
    live.matchingRules none = .quiet (.ok []) := by
  intro live rebuilt
  refine ⟨?_, ?_, fun held => rfl, rfl⟩
  · intro record typed
    have answers : live.AnswersAs rebuilt record := answersAs_withOptions rules options typed
    exact ⟨answers, fun error failed => answers.failsWith failed⟩
  · intro faithful error
    rw [Evaluator.withOptions_eq_error_iff faithful]
    exact Options.spoiling?_eq_some_iff

/-- A strict set is spoiled for a rule of it, for one outside it, but not for an absent record. -/
theorem answers_eq_rebuilt_of_strict_set :
    let schema : Schema := ⟨fun _ => default, ⟨"Order", []⟩⟩
    let all : HeldRule := ⟨1, ⟨"all", []⟩⟩
    let unresolved : HeldRule := ⟨2, ⟨"unresolved", [⟨"Amount", "IsNull", none⟩]⟩⟩
    let outside : HeldRule := ⟨3, ⟨"outside", []⟩⟩
    let rules := [all, unresolved]
    let options : Options := { strict := true }
    let live : LiveEvaluator := ⟨schema.catalog, rules, options⟩
    let record : Record := ⟨schema.root, []⟩
    let error : RuleError := .invalidPath "Amount" "Amount" "Order"
    record.type = schema.root ∧ HeldRule.Faithful rules ∧
      firstRefusal? schema .builtIn rules = some error ∧
      (Evaluator.withOptions schema rules options).value = .error error ∧
      (live.matchesRule (some record) all).value = .error error ∧
      (live.explain record outside).value = .error error ∧
      live.matchesRule none unresolved = .quiet (.ok false) ∧
      live.matchingRules none = .quiet (.ok []) := by
  intro schema all unresolved outside rules options live record error
  have faithful : HeldRule.Faithful rules := by decide
  have first : firstRefusal? schema .builtIn rules = some error := rfl
  obtain ⟨present, spoiled, absent, nothing⟩ := answers_eq_rebuilt schema rules options
  have failed : (Evaluator.withOptions schema rules options).value = .error error :=
    (spoiled faithful error).mpr ⟨rfl, first⟩
  obtain ⟨-, fails⟩ := present record rfl
  have every := fails error failed
  exact ⟨rfl, faithful, first, failed, every.matchesRule_eq all, every.explain_eq outside,
    absent unresolved, nothing⟩

end LiveEvaluator

end RecordRules
