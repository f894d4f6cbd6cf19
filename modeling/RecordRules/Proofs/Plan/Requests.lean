import RecordRules.Plan

/-!
# Which tests are asked for

A rule is prepared by asking the strategy of each of its operators for a test.  That goes
on up to the first criterion that fails.  The failing criterion has asked for a test as
well, unless its operator is unknown or its path leads nowhere: then there is no strategy
or no field to ask with.
-/

namespace RecordRules

def Event.request? : Event → Option String
  | .built operator => some operator
  | _ => none

section Requests

variable (schema : Schema) (registry : Registry)

/-- What the strategy of a criterion's operator makes of its field and its argument.  Nothing is
asked of an operator that is unknown or for a path that leads nowhere. -/
def Criterion.request? (criterion : Criterion) : Option (Except RuleError Test) :=
  match registry.strategy? criterion.operator, schema.resolve criterion.path with
  | some strategy, .ok leaf => some (strategy criterion.operator leaf criterion.value)
  | _, _ => none

def Criterion.asks (criterion : Criterion) : Bool :=
  (criterion.request? schema registry).isSome

def Criterion.receives (criterion : Criterion) : Bool :=
  (criterion.request? schema registry).any (·.isOk)

/-- The operators that are asked for the tests of criteria: those of the criteria up to the first
that receives no test, and the operator of that one if it asks for a test at all. -/
def requestsOf (criteria : List Criterion) : List String :=
  let received := criteria.takeWhile (·.receives schema registry)
  let failing := (criteria.dropWhile (·.receives schema registry)).take 1
  (received ++ failing.filter (·.asks schema registry)).map (·.operator)

def Rule.requests (rule : Rule) : List String :=
  requestsOf schema registry rule.criteria

variable {schema registry}

theorem requestsOf_cons_of_received {criterion : Criterion}
    (received : criterion.receives schema registry = true) (rest : List Criterion) :
    requestsOf schema registry (criterion :: rest) =
      criterion.operator :: requestsOf schema registry rest := by
  simp [requestsOf, received]

theorem requestsOf_cons_of_failing {criterion : Criterion}
    (failing : criterion.receives schema registry = false) (rest : List Criterion) :
    requestsOf schema registry (criterion :: rest) =
      if criterion.asks schema registry then [criterion.operator] else [] := by
  cases asks : criterion.asks schema registry <;> simp [requestsOf, failing, asks]

/-- A criterion that is prepared asks its strategy once, if it asks at all. -/
theorem Criterion.requests_prepare (criterion : Criterion) :
    (criterion.prepare schema registry).picked Event.request? =
      if criterion.asks schema registry then [criterion.operator] else [] := by
  cases known : registry.strategy? criterion.operator with
  | none => simp [prepare, asks, request?, Registry.strategy, known]
  | some strategy =>
      cases resolved : schema.resolve criterion.path with
      | error error => simp [prepare, asks, request?, Registry.strategy, known, resolved]
      | ok leaf =>
          simp [prepare, asks, request?, Registry.strategy, known, resolved, Logged.picked,
            Event.request?]

theorem Criterion.isOk_value_prepare (criterion : Criterion) :
    (criterion.prepare schema registry).value.isOk = criterion.receives schema registry := by
  cases known : registry.strategy? criterion.operator with
  | none => simp [prepare, receives, request?, Registry.strategy, known, Except.isOk, Except.toBool]
  | some strategy =>
      cases resolved : schema.resolve criterion.path with
      | error error =>
          simp [prepare, receives, request?, Registry.strategy, known, resolved, Except.isOk,
            Except.toBool]
      | ok leaf =>
          simp only [prepare, receives, request?, Registry.strategy, known, resolved,
            Option.any_some]
          cases strategy criterion.operator leaf criterion.value <;> rfl

theorem Criterion.asks_of_receives {criterion : Criterion}
    (received : criterion.receives schema registry = true) :
    criterion.asks schema registry = true := by
  rw [receives, Option.any_eq_true] at received
  obtain ⟨outcome, requested, -⟩ := received
  rw [asks, requested]
  rfl

/-- Criteria are prepared by asking for one test after another, up to the first failure. -/
theorem requests_prepareAll (criteria : List Criterion) :
    (prepareAll schema registry criteria).picked Event.request? =
      requestsOf schema registry criteria := by
  induction criteria with
  | nil => rfl
  | cons criterion rest ih =>
      have ready : (criterion.prepare schema registry).value.isOk =
          criterion.receives schema registry := criterion.isOk_value_prepare
      rw [prepareAll, Logged.picked_andThenOk, criterion.requests_prepare]
      cases prepared : (criterion.prepare schema registry).value with
      | error error =>
          rw [prepared] at ready
          rw [requestsOf_cons_of_failing ready.symm, Except.toOption, Option.elim_none,
            List.append_nil]
      | ok check =>
          rw [prepared] at ready
          have received : criterion.receives schema registry = true := ready.symm
          rw [Criterion.asks_of_receives received, if_pos rfl, Except.toOption, Option.elim_some,
            Logged.picked_map, ih, requestsOf_cons_of_received received, List.singleton_append]

/-- A rule is prepared by asking for the tests of its criteria. -/
theorem Rule.requests_prepare (rule : Rule) :
    (rule.prepare schema registry).picked Event.request? = rule.requests schema registry := by
  rw [prepare, Logged.picked_map, requests_prepareAll, requests]

end Requests

end RecordRules
