import RecordRules.Evaluator.Basic

/-!
# What a set of prepared rules holds

Filling a set goes over the rules once and skips handles that are already there.  The
result is that every handle holds the preparation of the first rule that has the handle,
and a handle of no rule holds nothing.  As long as a handle does not stand for two rules,
what is held for a rule is the preparation of that very rule.
-/

namespace RecordRules

namespace HeldRule

/-- No handle stands for two different rules, as long as the rules are kept. -/
def Faithful (rules : List HeldRule) : Prop :=
  ∀ first ∈ rules, ∀ second ∈ rules, first.handle = second.handle → first.rule = second.rule

instance (rules : List HeldRule) : Decidable (Faithful rules) :=
  inferInstanceAs (Decidable (∀ first ∈ rules, ∀ second ∈ rules,
    first.handle = second.handle → first.rule = second.rule))

theorem Faithful.cons_mem {held : HeldRule} {rules : List HeldRule}
    (faithful : Faithful rules) (member : held ∈ rules) : Faithful (held :: rules) := by
  have inside : ∀ rule ∈ held :: rules, rule ∈ rules := by
    intro rule ruleIn
    rcases List.mem_cons.mp ruleIn with same | ruleIn
    · exact same ▸ member
    · exact ruleIn
  intro first firstIn second secondIn
  exact faithful first (inside first firstIn) second (inside second secondIn)

end HeldRule

namespace Cache

variable {schema : Schema} {registry : Registry} {options : Options}

@[simp] theorem planOf?_nil (handle : Nat) : planOf? [] handle = none := rfl

theorem planOf?_append (first second : List (Nat × Except RuleError Plan)) (handle : Nat) :
    planOf? (first ++ second) handle = (planOf? first handle).or (planOf? second handle) := by
  simp only [planOf?, List.find?_append, Option.map_or]

@[simp] theorem planOf?_singleton_self (handle : Nat) (plan : Except RuleError Plan) :
    planOf? [(handle, plan)] handle = some plan := by
  simp [planOf?]

theorem planOf?_singleton_of_ne {handle other : Nat} (different : handle ≠ other)
    (plan : Except RuleError Plan) : planOf? [(handle, plan)] other = none := by
  simp [planOf?, different]

/-- The preparation of the first rule of a handle. -/
def firstPlan? (schema : Schema) (registry : Registry) (rules : List HeldRule)
    (handle : Nat) : Option (Except RuleError Plan) :=
  (rules.find? (·.handle == handle)).map fun held => (held.rule.prepare schema registry).value

@[simp] theorem firstPlan?_nil (handle : Nat) :
    firstPlan? schema registry [] handle = none := rfl

theorem firstPlan?_cons_self (held : HeldRule) (rest : List HeldRule) :
    firstPlan? schema registry (held :: rest) held.handle =
      some (held.rule.prepare schema registry).value := by
  simp [firstPlan?]

theorem firstPlan?_cons_of_ne {held : HeldRule} {handle : Nat}
    (different : held.handle ≠ handle) (rest : List HeldRule) :
    firstPlan? schema registry (held :: rest) handle =
      firstPlan? schema registry rest handle := by
  simp [firstPlan?, different]

theorem exists_of_firstPlan? {rules : List HeldRule} {handle : Nat}
    {plan : Except RuleError Plan} (found : firstPlan? schema registry rules handle = some plan) :
    ∃ held ∈ rules, held.handle = handle ∧ (held.rule.prepare schema registry).value = plan := by
  obtain ⟨held, first, prepared⟩ := Option.map_eq_some_iff.mp found
  exact ⟨held, List.mem_of_find?_eq_some first, by simpa using List.find?_some first, prepared⟩

theorem firstPlan?_isSome_of_mem {rules : List HeldRule} {held : HeldRule}
    (member : held ∈ rules) : (firstPlan? schema registry rules held.handle).isSome := by
  rw [firstPlan?, Option.isSome_map, List.find?_isSome]
  exact ⟨held, member, beq_self_eq_true held.handle⟩

@[simp] theorem value_prepareOne (rule : Rule) :
    (prepareOne schema options rule).value = (rule.prepare schema options.registry).value := rfl

/-- Handles that are there already keep their plans; the others take the first that comes. -/
theorem planOf?_fill (plans : List (Nat × Except RuleError Plan)) (rules : List HeldRule)
    (handle : Nat) :
    planOf? (fill schema options plans rules).value handle =
      (planOf? plans handle).or (firstPlan? schema options.registry rules handle) := by
  induction rules generalizing plans with
  | nil => simp [fill]
  | cons held rest ih =>
      cases known : planOf? plans held.handle with
      | some plan =>
          -- The rule is passed over, and its handle is answered by what was there before.
          simp only [fill, known]
          rw [ih]
          by_cases same : held.handle = handle
          · simp [← same, known]
          · rw [firstPlan?_cons_of_ne same]
      | none =>
          simp only [fill, known, Logged.value_andThen, value_prepareOne]
          rw [ih, planOf?_append, Option.or_assoc]
          by_cases same : held.handle = handle
          · subst same
            rw [planOf?_singleton_self, firstPlan?_cons_self, Option.some_or]
          · rw [planOf?_singleton_of_ne same, Option.none_or, firstPlan?_cons_of_ne same]

/-- A set of rules for a schema and a registry: it has the rules in their order, and each handle
holds the preparation of the first rule of the handle. -/
structure Represents (cache : Cache) (schema : Schema) (registry : Registry)
    (rules : List HeldRule) : Prop where
  schema_eq : cache.schema = schema
  registry_eq : cache.registry = registry
  rules_eq : cache.rules = rules
  planOf?_eq : ∀ handle, planOf? cache.plans handle = firstPlan? schema registry rules handle

theorem represents_ofRules (schema : Schema) (rules : List HeldRule) (options : Options) :
    (ofRules schema rules options).value.Represents schema options.registry rules where
  schema_eq := rfl
  registry_eq := rfl
  rules_eq := rfl
  planOf?_eq handle := planOf?_fill [] rules handle

namespace Represents

variable {cache : Cache} {rules : List HeldRule}

theorem plan_eq (represents : cache.Represents schema registry rules) {held : HeldRule}
    (faithful : HeldRule.Faithful (held :: rules)) {plan : Except RuleError Plan}
    (found : planOf? cache.plans held.handle = some plan) :
    plan = (held.rule.prepare schema registry).value := by
  rw [represents.planOf?_eq] at found
  obtain ⟨first, member, handles, prepared⟩ := exists_of_firstPlan? found
  have rules_eq := faithful first (List.mem_cons_of_mem held member)
    held List.mem_cons_self handles
  rw [← prepared, rules_eq]

theorem planOf?_of_mem (represents : cache.Represents schema registry rules)
    (faithful : HeldRule.Faithful rules) {held : HeldRule} (member : held ∈ rules) :
    planOf? cache.plans held.handle = some (held.rule.prepare schema registry).value := by
  have present : (planOf? cache.plans held.handle).isSome := by
    rw [represents.planOf?_eq]
    exact firstPlan?_isSome_of_mem member
  obtain ⟨plan, found⟩ := Option.isSome_iff_exists.mp present
  rw [found, represents.plan_eq (faithful.cons_mem member) found]

end Represents

/-- The check of strict options refuses a set or leaves it as it is. -/
theorem eq_ofRules_of_checked {rules : List HeldRule} {cache : Cache}
    (built : (ofRulesChecked schema rules options).value = .ok cache) :
    cache = (ofRules schema rules options).value := by
  simp only [ofRulesChecked, Logged.value_map] at built
  split at built
  · split at built
    · cases built
    · exact (Except.ok.inj built).symm
  · exact (Except.ok.inj built).symm

theorem represents_of_checked {rules : List HeldRule} {cache : Cache}
    (built : (ofRulesChecked schema rules options).value = .ok cache) :
    cache.Represents schema options.registry rules := by
  rw [eq_ofRules_of_checked built]
  exact represents_ofRules schema rules options

end Cache

namespace Evaluator

theorem value_withOptions (schema : Schema) (rules : List HeldRule) (options : Options) :
    (withOptions schema rules options).value =
      (Cache.ofRulesChecked schema rules options).value.map (⟨·⟩) := rfl

theorem represents_of_built {schema : Schema} {rules : List HeldRule} {options : Options}
    {evaluator : Evaluator} (built : (withOptions schema rules options).value = .ok evaluator) :
    evaluator.cache.Represents schema options.registry rules := by
  rw [value_withOptions] at built
  cases checked : (Cache.ofRulesChecked schema rules options).value with
  | error error =>
      rw [checked] at built
      cases built
  | ok cache =>
      rw [checked] at built
      obtain rfl := Except.ok.inj built
      exact Cache.represents_of_checked checked

end Evaluator

end RecordRules
