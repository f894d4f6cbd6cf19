import RecordRules.Evaluator.Cache

/-!
# Evaluators

An evaluator answers questions about rules and records.  One kind prepares its rules once
for a given schema.  The other takes the schema from each record and prepares its rules
anew for every question.  Nothing is asked of an absent record: no rule holds of it, and
no rule is prepared for it.
-/

namespace RecordRules

/-- An evaluator whose rules are prepared once for the records of one schema. -/
structure Evaluator where
  cache : Cache

namespace Evaluator

/-- An evaluator of the built-in operators that keeps errors for later. -/
def ofRules (schema : Schema) (rules : List HeldRule) : Logged Evaluator :=
  (Cache.ofRules schema rules {}).map (⟨·⟩)

/-- An evaluator with options; if they are strict, the first error is the outcome. -/
def withOptions (schema : Schema) (rules : List HeldRule) (options : Options) :
    Logged (Except RuleError Evaluator) :=
  (Cache.ofRulesChecked schema rules options).map (·.map (⟨·⟩))

def rules (evaluator : Evaluator) : List HeldRule :=
  evaluator.cache.rules

def matchesRule (evaluator : Evaluator) (record : Option Record) (held : HeldRule) :
    Logged (Except RuleError Bool) :=
  match record with
  | none => .quiet (.ok false)
  | some record => evaluator.cache.matchesRule record held

def matchingRules (evaluator : Evaluator) (record : Option Record) :
    Logged (Except RuleError (List HeldRule)) :=
  match record with
  | none => .quiet (.ok [])
  | some record => evaluator.cache.matchingRules record

def explain (evaluator : Evaluator) (record : Record) (held : HeldRule) :
    Logged (Except RuleError Explanation) :=
  evaluator.cache.explain record held

end Evaluator

/-- An evaluator that prepares its rules anew for the type of each record. -/
structure LiveEvaluator where
  catalog : Catalog
  rules : List HeldRule
  options : Options

namespace LiveEvaluator

def cacheFor (evaluator : LiveEvaluator) (record : Record) : Logged (Except RuleError Cache) :=
  Cache.ofRulesChecked ⟨evaluator.catalog, record.type⟩ evaluator.rules evaluator.options

def matchesRule (evaluator : LiveEvaluator) (record : Option Record) (held : HeldRule) :
    Logged (Except RuleError Bool) :=
  match record with
  | none => .quiet (.ok false)
  | some record => (evaluator.cacheFor record).andThenOk (·.matchesRule record held)

def matchingRules (evaluator : LiveEvaluator) (record : Option Record) :
    Logged (Except RuleError (List HeldRule)) :=
  match record with
  | none => .quiet (.ok [])
  | some record => (evaluator.cacheFor record).andThenOk (·.matchingRules record)

def explain (evaluator : LiveEvaluator) (record : Record) (held : HeldRule) :
    Logged (Except RuleError Explanation) :=
  (evaluator.cacheFor record).andThenOk (·.explain record held)

end LiveEvaluator

end RecordRules
