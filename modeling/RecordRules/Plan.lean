import RecordRules.Event

/-!
# Plans

A rule is prepared for the records of a schema by giving each of its criteria a chain of
slots and a test.  The operator is looked up first, then the path is resolved, then the
test is built, and the first criterion that fails ends the preparation.  A plan holds of a
record when all its checks do.
-/

namespace RecordRules

/-- A prepared criterion. -/
structure Check where
  criterion : Criterion
  slots : List Nat
  test : Test

/-- A prepared rule. -/
structure Plan where
  ruleName : String
  /-- The name of the record type the rule was prepared for. -/
  rootName : String
  checks : List Check

namespace Check

/-- Whether a check holds of a record; a constant result does not read the record. -/
def holds (check : Check) (record : Record) : Bool :=
  match check.test.constant? with
  | some result => result
  | none => check.test.passes (record.value.follow check.slots)

def outcome (check : Check) (record : Record) : Outcome :=
  ⟨check.criterion.text, check.holds record⟩

end Check

namespace Plan

/-- Whether all checks hold of a record, up to the first that does not. -/
def holds (plan : Plan) (record : Record) : Bool :=
  plan.checks.all (·.holds record)

def explain (plan : Plan) (record : Record) : Explanation :=
  let outcomes := plan.checks.map (·.outcome record)
  ⟨plan.ruleName, outcomes.all (·.matched), outcomes⟩

end Plan

def Criterion.prepare (schema : Schema) (registry : Registry) (criterion : Criterion) :
    Logged (Except RuleError Check) :=
  match registry.strategy criterion.operator with
  | .error error => .quiet (.error error)
  | .ok strategy =>
      match schema.resolve criterion.path with
      | .error error => .quiet (.error error)
      | .ok leaf =>
          ⟨[.built criterion.operator],
            (strategy criterion.operator leaf criterion.value).map
              fun test => ⟨criterion, leaf.slots, test⟩⟩

/-- The preparation of criteria, up to the first that fails. -/
def prepareAll (schema : Schema) (registry : Registry) :
    List Criterion → Logged (Except RuleError (List Check))
  | [] => .quiet (.ok [])
  | criterion :: rest =>
      (criterion.prepare schema registry).andThenOk fun check =>
        (prepareAll schema registry rest).map (·.map (check :: ·))

def Rule.prepare (schema : Schema) (registry : Registry) (rule : Rule) :
    Logged (Except RuleError Plan) :=
  (prepareAll schema registry rule.criteria).map
    (·.map fun checks => ⟨rule.name, schema.root.name, checks⟩)

end RecordRules
