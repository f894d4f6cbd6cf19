import Mathlib.Data.List.Forall2
import RecordRules.Plan

/-!
# Preparing criteria one by one

The criteria of a rule are prepared in order, and the checks of a prepared rule are the
prepared criteria.  A prepared criterion has a registered operator and a path that
resolves, and its test is the one that the operator makes for the field at the end of the
path.
-/

namespace RecordRules

variable {schema : Schema} {registry : Registry}

theorem Criterion.prepare_eq_ok_iff {criterion : Criterion} {check : Check} :
    (criterion.prepare schema registry).value = .ok check ↔
      ∃ strategy leaf test, registry.strategy? criterion.operator = some strategy ∧
        schema.resolve criterion.path = .ok leaf ∧
        strategy criterion.operator leaf criterion.value = .ok test ∧
        check = ⟨criterion, leaf.slots, test⟩ := by
  unfold Criterion.prepare Registry.strategy
  cases registry.strategy? criterion.operator with
  | none => simp
  | some strategy =>
      cases schema.resolve criterion.path with
      | error error => simp
      | ok leaf =>
          cases made : strategy criterion.operator leaf criterion.value with
          | error error => simp [made, Except.map]
          | ok test => simp [made, Except.map, eq_comm]

/-- Criteria are prepared exactly if each of them is, and the checks stand in their order. -/
theorem prepareAll_eq_ok_iff {criteria : List Criterion} {checks : List Check} :
    (prepareAll schema registry criteria).value = .ok checks ↔
      List.Forall₂ (fun criterion check => (criterion.prepare schema registry).value = .ok check)
        criteria checks := by
  induction criteria generalizing checks with
  | nil => simp [prepareAll, eq_comm]
  | cons criterion rest ih =>
      rw [prepareAll, Logged.value_andThenOk]
      cases prepared : (criterion.prepare schema registry).value with
      | error error => cases checks <;> simp [Except.bind, prepared]
      | ok check =>
          cases others : (prepareAll schema registry rest).value with
          | error error => cases checks <;> simp [Except.bind, Except.map, others, ← ih]
          | ok found => cases checks <;> simp [Except.bind, Except.map, others, prepared, ← ih]

theorem Rule.prepare_eq_ok_iff {rule : Rule} {plan : Plan} :
    (rule.prepare schema registry).value = .ok plan ↔
      ∃ checks, (prepareAll schema registry rule.criteria).value = .ok checks ∧
        plan = ⟨rule.name, schema.root.name, checks⟩ := by
  rw [Rule.prepare, Logged.value_map]
  cases (prepareAll schema registry rule.criteria).value with
  | error error => simp [Except.map]
  | ok checks => simp [Except.map, eq_comm]

theorem Rule.prepare_of_forall₂ {rule : Rule} {checks : List Check}
    (each : List.Forall₂
      (fun criterion check => (criterion.prepare schema registry).value = .ok check)
      rule.criteria checks) :
    (rule.prepare schema registry).value = .ok ⟨rule.name, schema.root.name, checks⟩ :=
  Rule.prepare_eq_ok_iff.mpr ⟨checks, prepareAll_eq_ok_iff.mpr each, rfl⟩

end RecordRules
