import RecordRules.Plan

/-!
# Sets of prepared rules

Rules are told apart by their handles and not by their content: two rules of equal content
are prepared each on its own, and a rule that occurs several times in a set is prepared
once.  A rule that cannot be prepared keeps its error, which is the answer to every
question about it.
-/

namespace RecordRules

/-- A rule with the handle it is known by. -/
structure HeldRule where
  handle : Nat
  rule : Rule
deriving DecidableEq, Repr

/-- How sets of rules are prepared. -/
structure Options where
  registry : Registry := .builtIn
  /-- Whether a rule that cannot be prepared spoils the whole set. -/
  strict : Bool := false
  /-- Whether findings about the rules are reported. -/
  reportsFindings : Bool := false

/-- A set of rules with the plan, or the error, of each handle. -/
structure Cache where
  schema : Schema
  registry : Registry
  rules : List HeldRule
  plans : List (Nat × Except RuleError Plan)

namespace Cache

def planOf? (plans : List (Nat × Except RuleError Plan)) (handle : Nat) :
    Option (Except RuleError Plan) :=
  (plans.find? (·.1 == handle)).map (·.2)

def criticism (options : Options) (rule : Rule) : List Event :=
  if options.reportsFindings then
    (rule.findings options.registry.names).map (.criticised rule.name)
  else []

def refusal (rule : Rule) : Except RuleError Plan → List Event
  | .error error => [.refused rule.name error]
  | .ok _ => []

def prepareOne (schema : Schema) (options : Options) (rule : Rule) :
    Logged (Except RuleError Plan) :=
  let prepared := rule.prepare schema options.registry
  ⟨criticism options rule ++ prepared.events ++ refusal rule prepared.value, prepared.value⟩

/-- The plans of rules, in addition to those that are there already. -/
def fill (schema : Schema) (options : Options) (plans : List (Nat × Except RuleError Plan)) :
    List HeldRule → Logged (List (Nat × Except RuleError Plan))
  | [] => .quiet plans
  | held :: rest =>
      match planOf? plans held.handle with
      | some _ => fill schema options plans rest
      | none =>
          (prepareOne schema options held.rule).andThen fun plan =>
            fill schema options (plans ++ [(held.handle, plan)]) rest

def ofRules (schema : Schema) (rules : List HeldRule) (options : Options) : Logged Cache :=
  (fill schema options [] rules).andThen fun plans =>
    ⟨[.ready plans.length], ⟨schema, options.registry, rules, plans⟩⟩

def errorOf? (cache : Cache) (held : HeldRule) : Option RuleError :=
  match planOf? cache.plans held.handle with
  | some (.error error) => some error
  | _ => none

def firstError? (cache : Cache) : Option RuleError :=
  cache.rules.findSome? cache.errorOf?

/-- A set of rules; if the options are strict, only one without errors. -/
def ofRulesChecked (schema : Schema) (rules : List HeldRule) (options : Options) :
    Logged (Except RuleError Cache) :=
  (ofRules schema rules options).map fun cache =>
    if options.strict then
      match cache.firstError? with
      | some error => .error error
      | none => .ok cache
    else .ok cache

/-- Whether a rule, of the set or not, holds of a record. -/
def matchesRule (cache : Cache) (record : Record) (held : HeldRule) :
    Logged (Except RuleError Bool) :=
  match planOf? cache.plans held.handle with
  | some plan => .quiet (plan.map (·.holds record))
  | none =>
      let prepared := held.rule.prepare cache.schema cache.registry
      ⟨.preparedAlone held.rule.name :: prepared.events, prepared.value.map (·.holds record)⟩

/-- The rules of a list that hold of a record, unless one of them has an error. -/
def matchingAmong (cache : Cache) (record : Record) :
    List HeldRule → Logged (Except RuleError (List HeldRule))
  | [] => .quiet (.ok [])
  | held :: rest =>
      (cache.matchesRule record held).andThenOk fun holds =>
        (cache.matchingAmong record rest).map
          (·.map fun found => if holds then held :: found else found)

def matchingRules (cache : Cache) (record : Record) :
    Logged (Except RuleError (List HeldRule)) :=
  cache.matchingAmong record cache.rules

def explain (cache : Cache) (record : Record) (held : HeldRule) :
    Logged (Except RuleError Explanation) :=
  match planOf? cache.plans held.handle with
  | some plan => .quiet (plan.map (·.explain record))
  | none => (held.rule.prepare cache.schema cache.registry).map (·.map (·.explain record))

end Cache

end RecordRules
