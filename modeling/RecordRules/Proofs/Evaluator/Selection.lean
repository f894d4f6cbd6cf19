import RecordRules.Proofs.Evaluator.Transparency

/-!
# Matching rules, the first error and strict options

Three traversals go over the rules of a set: the one that fills it, the search for the
first error, and the search for the matching rules, which ends at a rule with an error.
They agree on which rule is the first that cannot be prepared.  Without such a rule the
matching rules are a sublist of the rules, and strict options change nothing; with one,
its error is the answer to the search and the outcome of a strict construction.
-/

namespace RecordRules

instance (answer : Except RuleError Bool) : Decidable (answer = .ok true) :=
  match answer with
  | .ok true => isTrue rfl
  | .ok false => isFalse (by simp)
  | .error _ => isFalse (by simp)

theorem decide_ok_eq_ok_true (holds : Bool) :
    decide ((.ok holds : Except RuleError Bool) = .ok true) = holds := by
  cases holds <;> rfl

def Rule.refusal? (schema : Schema) (registry : Registry) (rule : Rule) : Option RuleError :=
  match (rule.prepare schema registry).value with
  | .ok _ => none
  | .error error => some error

/-- The error of the first rule, in the order of the list, that cannot be prepared. -/
def firstRefusal? (schema : Schema) (registry : Registry) (rules : List HeldRule) :
    Option RuleError :=
  rules.findSome? (·.rule.refusal? schema registry)

theorem findSome?_eq_of_forall_mem {α β : Type} {f g : α → Option β} {list : List α}
    (same : ∀ item ∈ list, f item = g item) : list.findSome? f = list.findSome? g := by
  induction list with
  | nil => rfl
  | cons item rest ih =>
      rw [List.findSome?_cons, List.findSome?_cons, same item List.mem_cons_self,
        ih fun other member => same other (List.mem_cons_of_mem item member)]

section Refusals

variable {schema : Schema} {registry : Registry}

theorem Rule.refusal?_eq_none_iff (rule : Rule) :
    rule.refusal? schema registry = none ↔
      ∃ plan, (rule.prepare schema registry).value = .ok plan := by
  unfold Rule.refusal?
  cases prepared : (rule.prepare schema registry).value with
  | ok plan => simp
  | error error => simp

theorem firstRefusal?_eq_none_iff (rules : List HeldRule) :
    firstRefusal? schema registry rules = none ↔
      ∀ held ∈ rules, ∃ plan, (held.rule.prepare schema registry).value = .ok plan := by
  simp only [firstRefusal?, List.findSome?_eq_none_iff, Rule.refusal?_eq_none_iff]

theorem firstRefusal?_cons_of_error {held : HeldRule} {error : RuleError}
    (refused : (held.rule.prepare schema registry).value = .error error)
    (rest : List HeldRule) :
    firstRefusal? schema registry (held :: rest) = some error := by
  simp [firstRefusal?, Rule.refusal?, refused]

theorem firstRefusal?_cons_of_ok {held : HeldRule} {plan : Plan}
    (prepared : (held.rule.prepare schema registry).value = .ok plan)
    (rest : List HeldRule) :
    firstRefusal? schema registry (held :: rest) = firstRefusal? schema registry rest := by
  simp [firstRefusal?, Rule.refusal?, prepared]

end Refusals

namespace Cache

variable {schema : Schema} {registry : Registry} {rules : List HeldRule} {cache : Cache}

/-- Rules are collected in order up to the first that cannot be prepared. -/
theorem Represents.value_matchingAmong (represents : cache.Represents schema registry rules)
    (faithful : HeldRule.Faithful rules) (record : Record) {listed : List HeldRule}
    (inside : ∀ held ∈ listed, held ∈ rules) :
    (cache.matchingAmong record listed).value =
      match firstRefusal? schema registry listed with
      | none => .ok (listed.filter fun held => (cache.matchesRule record held).value = .ok true)
      | some error => .error error := by
  induction listed with
  | nil => rfl
  | cons held rest ih =>
      have answer := represents.value_matchesRule
        (faithful.cons_mem (inside held List.mem_cons_self)) record
      have rested := ih fun other member => inside other (List.mem_cons_of_mem held member)
      simp only [matchingAmong, Logged.value_andThenOk, Logged.value_map, rested]
      cases prepared : (held.rule.prepare schema registry).value with
      | error error =>
          rw [answer, prepared, firstRefusal?_cons_of_error prepared]
          rfl
      | ok plan =>
          have holds : (cache.matchesRule record held).value = .ok (plan.holds record) := by
            rw [answer, prepared]
            rfl
          rw [holds, firstRefusal?_cons_of_ok prepared]
          cases firstRefusal? schema registry rest with
          | some error => rfl
          | none =>
              simp only [Except.bind, Except.map, List.filter_cons, holds, decide_ok_eq_ok_true]

theorem Represents.value_matchingRules (represents : cache.Represents schema registry rules)
    (faithful : HeldRule.Faithful rules) (record : Record) :
    (cache.matchingRules record).value =
      match firstRefusal? schema registry rules with
      | none => .ok (rules.filter fun held => (cache.matchesRule record held).value = .ok true)
      | some error => .error error := by
  rw [matchingRules, represents.rules_eq]
  exact represents.value_matchingAmong faithful record fun held member => member

theorem Represents.firstError?_eq (represents : cache.Represents schema registry rules)
    (faithful : HeldRule.Faithful rules) :
    cache.firstError? = firstRefusal? schema registry rules := by
  have errors : ∀ held ∈ rules,
      cache.errorOf? held = held.rule.refusal? schema registry := by
    intro held member
    rw [errorOf?, represents.planOf?_of_mem faithful member, Rule.refusal?]
    cases (held.rule.prepare schema registry).value with
    | ok plan => rfl
    | error error => rfl
  rw [firstError?, represents.rules_eq, firstRefusal?]
  exact findSome?_eq_of_forall_mem errors

/-- The plans of a set depend on the registry alone of all options. -/
theorem value_fill_of_registry_eq {first second : Options}
    (same : first.registry = second.registry) (plans : List (Nat × Except RuleError Plan))
    (rules : List HeldRule) :
    (fill schema first plans rules).value = (fill schema second plans rules).value := by
  induction rules generalizing plans with
  | nil => rfl
  | cons held rest ih =>
      cases known : planOf? plans held.handle with
      | some plan => simp only [fill, known, ih]
      | none => simp only [fill, known, Logged.value_andThen, value_prepareOne, same, ih]

theorem value_ofRules_of_registry_eq (first second : Options)
    (same : first.registry = second.registry) (rules : List HeldRule) :
    (ofRules schema rules first).value = (ofRules schema rules second).value := by
  simp only [ofRules, Logged.value_andThen, same, value_fill_of_registry_eq same]

theorem value_ofRulesChecked_of_lenient {options : Options} (lenient : options.strict = false) :
    (ofRulesChecked schema rules options).value = .ok (ofRules schema rules options).value := by
  simp [ofRulesChecked, lenient]

theorem value_ofRulesChecked_of_strict {options : Options} (strict : options.strict = true)
    (faithful : HeldRule.Faithful rules) :
    (ofRulesChecked schema rules options).value =
      match firstRefusal? schema options.registry rules with
      | none => .ok (ofRules schema rules options).value
      | some error => .error error := by
  have first := (represents_ofRules schema rules options).firstError?_eq faithful
  simp only [ofRulesChecked, Logged.value_map, strict, first, if_true]
  cases firstRefusal? schema options.registry rules with
  | none => rfl
  | some error => rfl

end Cache

namespace Evaluator

/-- Two evaluators that no question tells apart, not even by what is reported. -/
structure AnswersLike (first second : Evaluator) : Prop where
  matchesRule_eq : ∀ record held, first.matchesRule record held = second.matchesRule record held
  matchingRules_eq : ∀ record, first.matchingRules record = second.matchingRules record
  explain_eq : ∀ record held, first.explain record held = second.explain record held
  rules_eq : first.rules = second.rules

theorem AnswersLike.refl (evaluator : Evaluator) : evaluator.AnswersLike evaluator where
  matchesRule_eq _ _ := rfl
  matchingRules_eq _ := rfl
  explain_eq _ _ := rfl
  rules_eq := rfl

/-- An evaluator lists the rules that it answers with yes, or answers with the error of the first
rule that cannot be prepared.  That error, and nothing else, is what strict options make of a
construction. -/
theorem matchingRules_and_strictness_by_first_refusal (schema : Schema) (registry : Registry)
    {rules : List HeldRule} (faithful : HeldRule.Faithful rules)
    (lenientReports strictReports : Bool) :
    ∃ lenient,
      (withOptions schema rules ⟨registry, false, lenientReports⟩).value = .ok lenient ∧
      ((∀ held ∈ rules, ∃ plan, (held.rule.prepare schema registry).value = .ok plan) →
        ∀ record, (lenient.matchingRules (some record)).value =
          .ok (rules.filter fun held =>
            (lenient.matchesRule (some record) held).value = .ok true)) ∧
      (∀ error, firstRefusal? schema registry rules = some error →
        ∀ record, (lenient.matchingRules (some record)).value = .error error) ∧
      (∀ error, (withOptions schema rules ⟨registry, true, strictReports⟩).value = .error error ↔
        firstRefusal? schema registry rules = some error) ∧
      (∀ strict, (withOptions schema rules ⟨registry, true, strictReports⟩).value = .ok strict →
        strict.AnswersLike lenient) := by
  have represents := Cache.represents_ofRules schema rules ⟨registry, false, lenientReports⟩
  have strictValue := value_withOptions schema rules ⟨registry, true, strictReports⟩
  rw [Cache.value_ofRulesChecked_of_strict rfl faithful] at strictValue
  refine ⟨⟨(Cache.ofRules schema rules ⟨registry, false, lenientReports⟩).value⟩,
    ?_, ?_, ?_, ?_, ?_⟩
  · rw [value_withOptions, Cache.value_ofRulesChecked_of_lenient rfl]
    rfl
  · intro prepared record
    have selected := represents.value_matchingRules faithful record
    rwa [(firstRefusal?_eq_none_iff rules).mpr prepared] at selected
  · intro error refused record
    have selected := represents.value_matchingRules faithful record
    rwa [refused] at selected
  · intro error
    rw [strictValue]
    cases firstRefusal? schema registry rules with
    | none => simp [Except.map]
    | some first => simp [Except.map]
  · intro strict built
    rw [strictValue] at built
    cases refused : firstRefusal? schema registry rules with
    | some error =>
        rw [refused] at built
        cases built
    | none =>
        rw [refused] at built
        obtain rfl := Except.ok.inj built
        -- Both constructions fill the same set; strictness only decides whether it is kept.
        have same : (Cache.ofRules schema rules ⟨registry, true, strictReports⟩).value =
            (Cache.ofRules schema rules ⟨registry, false, lenientReports⟩).value :=
          Cache.value_ofRules_of_registry_eq ⟨registry, true, strictReports⟩
            ⟨registry, false, lenientReports⟩ rfl rules
        rw [same]
        exact AnswersLike.refl _

/-- Of two rules that cannot be prepared, the earlier one decides; the repeated one does not. -/
theorem strictness_of_repeated_and_refused_rules :
    let schema : Schema := ⟨fun _ => default, ⟨"Order", []⟩⟩
    let all : HeldRule := ⟨1, ⟨"all", []⟩⟩
    let unresolved : HeldRule := ⟨2, ⟨"unresolved", [⟨"Amount", "IsNull", none⟩]⟩⟩
    let unknown : HeldRule := ⟨3, ⟨"unknown", [⟨"Amount", "Equals", some "1"⟩]⟩⟩
    let rules := [all, all, unresolved, unknown, unresolved, all]
    let error : RuleError := .invalidPath "Amount" "Amount" "Order"
    HeldRule.Faithful rules ∧
      firstRefusal? schema .builtIn rules = some error ∧
      (∃ lenient, (withOptions schema rules ⟨.builtIn, false, true⟩).value = .ok lenient ∧
        ∀ record, (lenient.matchingRules (some record)).value = .error error) ∧
      (withOptions schema rules ⟨.builtIn, true, false⟩).value = .error error := by
  intro schema all unresolved unknown rules error
  have faithful : HeldRule.Faithful rules := by decide
  have first : firstRefusal? schema .builtIn rules = some error := rfl
  obtain ⟨lenient, built, -, refused, strictly, -⟩ :=
    matchingRules_and_strictness_by_first_refusal schema .builtIn faithful true false
  exact ⟨faithful, first, ⟨lenient, built, refused error first⟩, (strictly error).mpr first⟩

end Evaluator

end RecordRules
