import Mathlib.Data.List.Perm.Basic
import RecordRules.Proofs.Plan.Preparation

/-!
# Rules as conjunctions of their criteria

Setting the criteria of two rules one behind the other gives a rule that can be prepared
if both can, and that holds of the records of which both hold.  The order of the criteria
decides which error is met first, and nothing else: a permuted rule can be prepared
exactly if the rule can, and holds of the same records.
-/

namespace RecordRules

section Preparing

variable (schema : Schema) (registry : Registry)

def Rule.Prepares (rule : Rule) : Prop :=
  ∃ plan, (rule.prepare schema registry).value = .ok plan

end Preparing

variable {schema : Schema} {registry : Registry}

theorem prepareAll_append (first second : List Criterion) :
    (prepareAll schema registry (first ++ second)).value =
      (prepareAll schema registry first).value.bind fun checks =>
        (prepareAll schema registry second).value.map (checks ++ ·) := by
  induction first with
  | nil =>
      cases prepared : (prepareAll schema registry second).value with
      | error error => simp [prepareAll, prepared, Except.bind, Except.map]
      | ok checks => simp [prepareAll, prepared, Except.bind, Except.map]
  | cons criterion rest ih =>
      -- An error of the criterion, of the rest or of the second list is met in this order.
      simp only [List.cons_append, prepareAll, Logged.value_andThenOk, Logged.value_map, ih]
      cases (criterion.prepare schema registry).value with
      | error error => rfl
      | ok check =>
          cases (prepareAll schema registry rest).value with
          | error error => rfl
          | ok checks => cases (prepareAll schema registry second).value <;> rfl

/-- Criteria in another order are prepared if they are in this one, with the checks permuted. -/
theorem exists_prepareAll_of_perm {criteria permuted : List Criterion}
    (perm : criteria.Perm permuted) {checks : List Check}
    (prepared : (prepareAll schema registry criteria).value = .ok checks) :
    ∃ others, (prepareAll schema registry permuted).value = .ok others ∧ others.Perm checks := by
  obtain ⟨others, each, reordered⟩ :=
    List.perm_comp_forall₂ perm.symm (prepareAll_eq_ok_iff.mp prepared)
  exact ⟨others, prepareAll_eq_ok_iff.mpr each, reordered⟩

namespace Plan

theorem holds_of_append {whole first second : Plan}
    (joined : whole.checks = first.checks ++ second.checks) (record : Record) :
    whole.holds record = (first.holds record && second.holds record) := by
  rw [holds, joined, List.all_append]
  rfl

theorem holds_eq_of_perm {plan other : Plan} (perm : plan.checks.Perm other.checks)
    (record : Record) : plan.holds record = other.holds record := by
  rw [holds, holds, perm.all_eq]

end Plan

namespace Rule

theorem prepare_of_append {whole first second : Rule}
    (joined : whole.criteria = first.criteria ++ second.criteria) :
    (whole.prepare schema registry).value =
      (first.prepare schema registry).value.bind fun before =>
        (second.prepare schema registry).value.map fun behind =>
          ⟨whole.name, schema.root.name, before.checks ++ behind.checks⟩ := by
  simp only [prepare, Logged.value_map, joined, prepareAll_append]
  cases (prepareAll schema registry first.criteria).value with
  | error error => rfl
  | ok checks => cases (prepareAll schema registry second.criteria).value <;> rfl

theorem exists_prepare_of_perm {rule permuted : Rule}
    (perm : rule.criteria.Perm permuted.criteria) {plan : Plan}
    (prepared : (rule.prepare schema registry).value = .ok plan) :
    ∃ other, (permuted.prepare schema registry).value = .ok other ∧
      ∀ record, other.holds record = plan.holds record := by
  obtain ⟨checks, all, rfl⟩ := prepare_eq_ok_iff.mp prepared
  obtain ⟨others, allToo, reordered⟩ := exists_prepareAll_of_perm perm all
  refine ⟨_, prepare_eq_ok_iff.mpr ⟨others, allToo, rfl⟩, fun record => ?_⟩
  exact Plan.holds_eq_of_perm reordered record

/-- A rule with the criteria of two rules is prepared exactly if both are, with the error of the
first refusal, and holds where both hold.  The order of its criteria does not matter to either. -/
theorem conjunction_of_criteria (schema : Schema) (registry : Registry) :
    (∀ whole first second : Rule, whole.criteria = first.criteria ++ second.criteria →
      (whole.Prepares schema registry ↔
        first.Prepares schema registry ∧ second.Prepares schema registry) ∧
      (∀ error, (whole.prepare schema registry).value = .error error ↔
        (first.prepare schema registry).value = .error error ∨
          first.Prepares schema registry ∧
            (second.prepare schema registry).value = .error error) ∧
      ∀ plan before behind, (whole.prepare schema registry).value = .ok plan →
        (first.prepare schema registry).value = .ok before →
        (second.prepare schema registry).value = .ok behind →
        ∀ record, plan.holds record = (before.holds record && behind.holds record)) ∧
    ∀ rule permuted : Rule, rule.criteria.Perm permuted.criteria →
      (permuted.Prepares schema registry ↔ rule.Prepares schema registry) ∧
      ∀ plan other, (rule.prepare schema registry).value = .ok plan →
        (permuted.prepare schema registry).value = .ok other →
        ∀ record, other.holds record = plan.holds record := by
  constructor
  · intro whole first second joined
    have prepared : (whole.prepare schema registry).value = _ := prepare_of_append joined
    simp only [Prepares, prepared]
    cases (first.prepare schema registry).value with
    | error error => simp [Except.bind]
    | ok before =>
        cases (second.prepare schema registry).value with
        | error error => simp [Except.bind, Except.map]
        | ok behind =>
            simp only [Except.bind, Except.map]
            refine ⟨by simp, by simp, ?_⟩
            intro plan first second planned firstPlanned secondPlanned record
            obtain rfl := Except.ok.inj planned
            obtain rfl := Except.ok.inj firstPlanned
            obtain rfl := Except.ok.inj secondPlanned
            exact Plan.holds_of_append rfl record
  · intro rule permuted perm
    refine ⟨⟨?_, ?_⟩, ?_⟩
    · rintro ⟨other, prepared⟩
      obtain ⟨plan, preparedToo, -⟩ := exists_prepare_of_perm perm.symm prepared
      exact ⟨plan, preparedToo⟩
    · rintro ⟨plan, prepared⟩
      obtain ⟨other, preparedToo, -⟩ := exists_prepare_of_perm perm prepared
      exact ⟨other, preparedToo⟩
    · intro plan other prepared preparedToo record
      obtain ⟨found, again, same⟩ := exists_prepare_of_perm perm prepared
      obtain rfl := Except.ok.inj (preparedToo.symm.trans again)
      exact same record

/-- Amounts above one and below nine, in either order, are those above one that are below nine. -/
theorem conjunction_of_criteria_of_range :
    let schema : Schema :=
      ⟨fun _ => default, ⟨"Order", [⟨"Amount", .scalar (.signed .bits32), false, true⟩]⟩⟩
    let above : Criterion := ⟨"Amount", "GreaterThan", some "1"⟩
    let below : Criterion := ⟨"Amount", "LessThan", some "9"⟩
    let aboveCheck : Check := ⟨above, [0], .compare .greater (.signed 1)⟩
    let belowCheck : Check := ⟨below, [0], .compare .less (.signed 9)⟩
    let record : Record := ⟨schema.root, [.signed 5]⟩
    let plan : Plan := ⟨"range", "Order", [aboveCheck, belowCheck]⟩
    let other : Plan := ⟨"range", "Order", [belowCheck, aboveCheck]⟩
    (prepare schema .builtIn ⟨"range", [above, below]⟩).value = .ok plan ∧
      (prepare schema .builtIn ⟨"range", [below, above]⟩).value = .ok other ∧
      List.Perm [above, below] [below, above] ∧
      other.holds record = plan.holds record ∧
      ∃ first second, (prepare schema .builtIn ⟨"above", [above]⟩).value = .ok first ∧
        (prepare schema .builtIn ⟨"below", [below]⟩).value = .ok second ∧
        plan.holds record = (first.holds record && second.holds record) := by
  intro schema above below aboveCheck belowCheck record plan other
  have resolved : schema.resolve "Amount" =
      .ok ⟨"Amount", "Order", .scalar (.signed .bits32), "i32", false, false, [0]⟩ := rfl
  have aboveOk : (above.prepare schema .builtIn).value = .ok aboveCheck :=
    Criterion.prepare_eq_ok_iff.mpr ⟨_, _, _, rfl, resolved, rfl, rfl⟩
  have belowOk : (below.prepare schema .builtIn).value = .ok belowCheck :=
    Criterion.prepare_eq_ok_iff.mpr ⟨_, _, _, rfl, resolved, rfl, rfl⟩
  have prepared : (prepare schema .builtIn ⟨"range", [above, below]⟩).value = .ok plan :=
    prepare_of_forall₂ (.cons aboveOk (.cons belowOk .nil))
  have preparedToo : (prepare schema .builtIn ⟨"range", [below, above]⟩).value = .ok other :=
    prepare_of_forall₂ (.cons belowOk (.cons aboveOk .nil))
  have swapped : List.Perm [above, below] [below, above] := .swap below above []
  obtain ⟨conjoined, reordered⟩ := conjunction_of_criteria schema .builtIn
  obtain ⟨prepares, -, holds⟩ :=
    conjoined ⟨"range", [above, below]⟩ ⟨"above", [above]⟩ ⟨"below", [below]⟩ rfl
  obtain ⟨⟨first, firstPrepared⟩, ⟨second, secondPrepared⟩⟩ := prepares.mp ⟨plan, prepared⟩
  obtain ⟨-, same⟩ :=
    reordered ⟨"range", [above, below]⟩ ⟨"range", [below, above]⟩ swapped
  refine ⟨prepared, preparedToo, swapped, same plan other prepared preparedToo record, ?_⟩
  exact ⟨first, second, firstPrepared, secondPrepared,
    holds plan first second prepared firstPrepared secondPrepared record⟩

end Rule

end RecordRules
