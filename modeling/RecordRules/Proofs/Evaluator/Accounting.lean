import RecordRules.Proofs.Evaluator.Distinct
import RecordRules.Proofs.Evaluator.Questions
import RecordRules.Proofs.Plan.Requests

/-!
# How often rules are prepared

Every request for a test is accounted for.  The construction of an evaluator makes the
requests of its different rules, each rule once and in the order in which the rules first
occur.  After that only a question about a rule from outside, asked about a record that is
there, makes requests, namely those of the rule.  A live evaluator pays for a construction
at every such question.
-/

namespace RecordRules

open HeldRule

/-- The requests of the different rules of a list, each rule once. -/
def Options.requests (options : Options) (schema : Schema) (rules : List HeldRule) : List String :=
  (distinct rules).flatMap (·.rule.requests schema options.registry)

namespace Question

/-- The rule that has to be prepared for a question to an evaluator of the given rules. -/
def outsider? (rules : List HeldRule) (question : Question) : Option HeldRule :=
  if question.record?.isSome then
    question.subject?.filter fun held => held.handle ∉ rules.map (·.handle)
  else none

/-- The requests that a question makes of an evaluator of the given rules. -/
def requests (schema : Schema) (registry : Registry) (rules : List HeldRule)
    (question : Question) : List String :=
  (question.outsider? rules).elim [] (·.rule.requests schema registry)

section Requests

variable {schema : Schema} {registry : Registry} {rules : List HeldRule} {question : Question}
  {held : HeldRule}

theorem requests_of_absent (absent : question.record? = none) :
    question.requests schema registry rules = [] := by
  simp [requests, outsider?, absent]

theorem requests_of_listed (about : question.subject? = some held)
    (listed : held.handle ∈ rules.map (·.handle)) :
    question.requests schema registry rules = [] := by
  have inside : question.outsider? rules = none := by
    rw [outsider?, about]
    split
    · exact Option.filter_eq_none_iff.mpr fun other same => by
        rw [← Option.some.inj same]
        simpa using listed
    · rfl
  rw [requests, inside, Option.elim_none]

theorem requests_of_outside {record : Record} (present : question.record? = some record)
    (about : question.subject? = some held) (outside : held.handle ∉ rules.map (·.handle)) :
    question.requests schema registry rules = held.rule.requests schema registry := by
  have found : question.outsider? rules = some held := by
    rw [outsider?, present, about, Option.isSome_some, if_pos rfl]
    exact Option.filter_eq_some_iff.mpr ⟨rfl, decide_eq_true outside⟩
  rw [requests, found, Option.elim_some]

end Requests

end Question

namespace Cache

variable {schema : Schema} {options : Options} {rules : List HeldRule}

theorem requests_criticism (rule : Rule) :
    (criticism options rule).filterMap Event.request? = [] := by
  unfold criticism
  split
  · simp [List.filterMap_map, Function.comp_def, Event.request?]
  · rfl

theorem requests_refusal (rule : Rule) (plan : Except RuleError Plan) :
    (refusal rule plan).filterMap Event.request? = [] := by
  cases plan <;> rfl

theorem requests_prepareOne (rule : Rule) :
    (prepareOne schema options rule).events.filterMap Event.request? =
      rule.requests schema options.registry := by
  have prepared : (rule.prepare schema options.registry).picked Event.request? =
      rule.requests schema options.registry := rule.requests_prepare
  rw [Logged.picked] at prepared
  simp only [prepareOne, List.filterMap_append, requests_criticism, requests_refusal, prepared,
    List.nil_append, List.append_nil]

/-- A set is built with the requests of its different rules. -/
theorem requests_ofRules (schema : Schema) (rules : List HeldRule) (options : Options) :
    (ofRules schema rules options).picked Event.request? = options.requests schema rules := by
  rw [Logged.picked, events_ofRules, List.filterMap_append, List.filterMap_flatMap]
  simp only [requests_prepareOne]
  exact List.append_nil _

namespace Represents

variable {cache : Cache} {registry : Registry}

theorem planOf?_eq_none_iff (represents : cache.Represents schema registry rules)
    {held : HeldRule} :
    planOf? cache.plans held.handle = none ↔ held.handle ∉ rules.map (·.handle) := by
  rw [represents.planOf?_eq, firstPlan?, Option.map_eq_none_iff, List.find?_eq_none]
  simp

theorem mem_handles_of_planOf? (represents : cache.Represents schema registry rules)
    {held : HeldRule} {plan : Except RuleError Plan}
    (found : planOf? cache.plans held.handle = some plan) :
    held.handle ∈ rules.map (·.handle) := by
  have present : planOf? cache.plans held.handle ≠ none := by simp [found]
  rwa [Ne, represents.planOf?_eq_none_iff, Decidable.not_not] at present

theorem events_matchingAmong (represents : cache.Represents schema registry rules)
    (record : Record) {listed : List HeldRule} (inside : ∀ held ∈ listed, held ∈ rules) :
    (cache.matchingAmong record listed).events = [] := by
  induction listed with
  | nil => rfl
  | cons held rest ih =>
      have rested := ih fun other member => inside other (List.mem_cons_of_mem held member)
      have present : planOf? cache.plans held.handle ≠ none := by
        rw [Ne, represents.planOf?_eq_none_iff, Decidable.not_not]
        exact List.mem_map_of_mem (inside held List.mem_cons_self)
      obtain ⟨plan, found⟩ := Option.ne_none_iff_exists'.mp present
      have quiet : cache.matchesRule record held = .quiet (plan.map (·.holds record)) := by
        simp only [matchesRule, found]
      rw [matchingAmong, quiet]
      cases plan with
      | error error => rfl
      | ok plan => exact rested

theorem requests_matchesRule (represents : cache.Represents schema registry rules)
    (record : Record) (held : HeldRule) :
    (cache.matchesRule record held).picked Event.request? =
      (Question.matchesRule (some record) held).requests schema registry rules := by
  cases found : planOf? cache.plans held.handle with
  | none =>
      rw [Question.requests_of_outside rfl rfl (represents.planOf?_eq_none_iff.mp found),
        ← held.rule.requests_prepare]
      simp only [matchesRule, found, represents.schema_eq, represents.registry_eq]
      rfl
  | some plan =>
      rw [Question.requests_of_listed rfl (represents.mem_handles_of_planOf? found)]
      simp only [matchesRule, found, Logged.picked_quiet]

theorem requests_explain (represents : cache.Represents schema registry rules)
    (record : Record) (held : HeldRule) :
    (cache.explain record held).picked Event.request? =
      (Question.explain record held).requests schema registry rules := by
  cases found : planOf? cache.plans held.handle with
  | none =>
      rw [Question.requests_of_outside rfl rfl (represents.planOf?_eq_none_iff.mp found),
        ← held.rule.requests_prepare]
      simp only [explain, found, represents.schema_eq, represents.registry_eq, Logged.picked_map]
  | some plan =>
      rw [Question.requests_of_listed rfl (represents.mem_handles_of_planOf? found)]
      simp only [explain, found, Logged.picked_quiet]

end Represents

end Cache

namespace Evaluator

variable {schema : Schema} {rules : List HeldRule} {options : Options}

theorem requests_withOptions (schema : Schema) (rules : List HeldRule) (options : Options) :
    (withOptions schema rules options).picked Event.request? = options.requests schema rules :=
  Cache.requests_ofRules schema rules options

/-- A question makes the requests of a rule from outside, or none. -/
theorem requests_ask {evaluator : Evaluator}
    (built : (withOptions schema rules options).value = .ok evaluator) (question : Question) :
    (evaluator.ask question).picked Event.request? =
      question.requests schema options.registry rules := by
  have represents := represents_of_built built
  cases question with
  | matchesRule record held =>
      cases record with
      | none => rw [Question.requests_of_absent rfl]; rfl
      | some record => exact represents.requests_matchesRule record held
  | matchingRules record =>
      cases record with
      | none => rw [Question.requests_of_absent rfl]; rfl
      | some record =>
          have quiet := represents.events_matchingAmong record (fun held member => member)
          rw [← represents.rules_eq] at quiet
          have none_requested :
              (evaluator.cache.matchingRules record).picked Event.request? = [] := by
            rw [Logged.picked, Cache.matchingRules, quiet]
            rfl
          exact none_requested
  | explain record held => exact represents.requests_explain record held

theorem requests_session (schema : Schema) (rules : List HeldRule) (options : Options)
    (questions : List Question) :
    (session schema rules options questions).picked Event.request? =
      options.requests schema rules ++
        if (withOptions schema rules options).value.isOk then
          questions.flatMap (·.requests schema options.registry rules)
        else [] := by
  rw [session, Logged.picked_andThenOk, requests_withOptions]
  congr 1
  cases built : (withOptions schema rules options).value with
  | error error => rfl
  | ok evaluator =>
      simp only [Except.toOption, Option.elim_some, Logged.picked_map, Question.picked_askAll,
        requests_ask built]
      rfl

end Evaluator

namespace LiveEvaluator

/-- The requests of a question are those of a construction and of the question to what is built. -/
theorem requests_ask (live : LiveEvaluator) {question : Question} {record : Record}
    (present : question.record? = some record) :
    (live.ask question).picked Event.request? =
      live.options.requests (live.schemaOf record) live.rules ++
        if (Evaluator.withOptions (live.schemaOf record) live.rules live.options).value.isOk then
          question.requests (live.schemaOf record) live.options.registry live.rules
        else [] := by
  rw [live.picked_ask_of_present Event.request? present, Evaluator.requests_withOptions]
  congr 1
  cases built : (Evaluator.withOptions (live.schemaOf record) live.rules live.options).value with
  | error error => rfl
  | ok evaluator => exact Evaluator.requests_ask built question

end LiveEvaluator

/-- A construction asks for the tests of each different rule once.  A question asks for more only
if it is about a record and a rule from outside; a live evaluator builds anew for each record. -/
theorem requests_of_sessions (rules : List HeldRule) (options : Options)
    (questions : List Question) :
    ((distinct rules).Sublist rules ∧ ((distinct rules).map (·.handle)).Nodup ∧
      ∀ held, held ∈ distinct rules ↔ rules.find? (·.handle == held.handle) = some held) ∧
    (∀ (schema : Schema) (rule : Rule),
      (rule.prepare schema options.registry).picked Event.request? =
        rule.requests schema options.registry) ∧
    (∀ schema : Schema, (Evaluator.ofRules schema rules).picked Event.request? =
      (distinct rules).flatMap (·.rule.requests schema .builtIn)) ∧
    (∀ schema : Schema,
      (Evaluator.session schema rules options questions).picked Event.request? =
        ((distinct rules).flatMap (·.rule.requests schema options.registry)) ++
          if (Evaluator.withOptions schema rules options).value.isOk then
            questions.flatMap (·.requests schema options.registry rules)
          else []) ∧
    (∀ catalog : Catalog,
      let live : LiveEvaluator := ⟨catalog, rules, options⟩
      (live.session questions).picked Event.request? =
        questions.flatMap fun question =>
          question.record?.elim [] fun record =>
            ((distinct rules).flatMap (·.rule.requests (live.schemaOf record) options.registry)) ++
              if (Evaluator.withOptions (live.schemaOf record) rules options).value.isOk then
                question.requests (live.schemaOf record) options.registry rules
              else []) := by
  refine ⟨⟨distinct_sublist rules, nodup_distinct rules, fun held => mem_distinct_iff⟩,
    fun schema rule => rule.requests_prepare, ?_, ?_, ?_⟩
  · intro schema
    exact Cache.requests_ofRules schema rules {}
  · intro schema
    exact Evaluator.requests_session schema rules options questions
  · intro catalog live
    rw [LiveEvaluator.session, Question.picked_askAll]
    congr
    funext question
    cases present : question.record? with
    | none => exact live.picked_ask_of_absent Event.request? present
    | some record => exact live.requests_ask present

end RecordRules
