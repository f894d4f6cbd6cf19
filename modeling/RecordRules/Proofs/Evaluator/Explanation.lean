import RecordRules.Proofs.Evaluator.Transparency
import RecordRules.Proofs.Plan.Preparation

/-!
# Explanations and answers

Answering whether a rule holds stops at the first criterion that does not, explaining it
looks at all of them.  Both fail with the same error or succeed together, and then the
explanation tells of every criterion what a rule of that criterion alone is answered
with, and of the rule what the rule is answered with.  It does not matter whether a plan
is held for the rule, nor which kind of evaluator is asked.
-/

namespace RecordRules

/-- An explanation gives the result that stopping at the first failure gives. -/
theorem Plan.matched_explain (plan : Plan) (record : Record) :
    (plan.explain record).matched = plan.holds record := by
  simp only [explain, holds, List.all_map]
  rfl

section Agreeing

-- How an evaluator of the rules answers, for a record that stays the same, whether a rule holds.
variable (rules : List HeldRule) (answer : HeldRule → Except RuleError Bool)

/-- A criterion has an outcome, and a rule of this criterion alone is answered with it. -/
structure Criterion.HasOutcome (criterion : Criterion) (outcome : Outcome) : Prop where
  text_eq : outcome.criterion = criterion.text
  answered_alone : ∀ single : HeldRule, HeldRule.Faithful (single :: rules) →
    single.rule.criteria = [criterion] → answer single = .ok outcome.matched

/-- An explanation of a rule that agrees with how the rule and its criteria are answered. -/
structure Explanation.AgreesOn (explanation : Explanation) (held : HeldRule) : Prop where
  ruleName_eq : explanation.ruleName = held.rule.name
  hasOutcomes : List.Forall₂ (Criterion.HasOutcome rules answer) held.rule.criteria
    explanation.outcomes
  matched_eq : explanation.matched = explanation.outcomes.all (·.matched)
  answered : answer held = .ok explanation.matched

/-- A rule is explained if it is answered, in agreement with the answers, and fails as they do. -/
structure HeldRule.Explained (held : HeldRule) (explained : Except RuleError Explanation) :
    Prop where
  error_iff : ∀ error, explained = .error error ↔ answer held = .error error
  agrees : ∀ explanation, explained = .ok explanation →
    explanation.AgreesOn rules answer held

end Agreeing

section Single

variable {schema : Schema} {registry : Registry}

theorem Rule.prepare_of_singleton {rule : Rule} {criterion : Criterion} {check : Check}
    (alone : rule.criteria = [criterion])
    (prepared : (criterion.prepare schema registry).value = .ok check) (record : Record) :
    (rule.prepare schema registry).value.map (·.holds record) = .ok (check.holds record) := by
  have each : List.Forall₂
      (fun criterion check => (criterion.prepare schema registry).value = .ok check)
      rule.criteria [check] := by
    rw [alone]
    exact .cons prepared .nil
  rw [prepare_of_forall₂ each]
  simp [Except.map, Plan.holds]

theorem Check.criterion_eq_of_prepare {criterion : Criterion} {check : Check}
    (prepared : (criterion.prepare schema registry).value = .ok check) :
    check.criterion = criterion := by
  obtain ⟨strategy, leaf, test, -, -, -, rfl⟩ := Criterion.prepare_eq_ok_iff.mp prepared
  rfl

end Single

namespace Cache

variable {schema : Schema} {registry : Registry} {rules : List HeldRule} {cache : Cache}

/-- A set of rules explains every rule, of the set or not, in agreement with its answers. -/
theorem Represents.explained (represents : cache.Represents schema registry rules)
    {held : HeldRule} (faithful : HeldRule.Faithful (held :: rules)) (record : Record) :
    held.Explained rules (fun held => (cache.matchesRule record held).value)
      (cache.explain record held).value := by
  have answer := represents.value_matchesRule faithful record
  have explained := represents.value_explain faithful record
  cases prepared : (held.rule.prepare schema registry).value with
  | error error =>
      rw [prepared] at answer explained
      refine ⟨fun other => ?_, fun explanation succeeded => ?_⟩
      · simp only [answer, explained, Except.map, Except.error.injEq]
      · rw [explained] at succeeded
        cases succeeded
  | ok plan =>
      rw [prepared] at answer explained
      refine ⟨fun other => ?_, fun explanation succeeded => ?_⟩
      · simp only [answer, explained, Except.map, reduceCtorEq]
      · rw [explained] at succeeded
        obtain rfl := Except.ok.inj succeeded
        obtain ⟨checks, all, rfl⟩ := Rule.prepare_eq_ok_iff.mp prepared
        refine ⟨rfl, ?_, rfl, ?_⟩
        · -- The outcomes stand beside the criteria because the checks do.
          refine List.forall₂_map_right_iff.mpr ((prepareAll_eq_ok_iff.mp all).imp ?_)
          intro criterion check each
          refine ⟨congrArg Criterion.text (Check.criterion_eq_of_prepare each), ?_⟩
          intro single faithfulToo alone
          rw [represents.value_matchesRule faithfulToo record]
          exact Rule.prepare_of_singleton alone each record
        · rw [answer, Plan.matched_explain]
          rfl

end Cache

/-- If the rules of a live evaluator cannot be prepared, all questions fail with one error. -/
theorem LiveEvaluator.explained (evaluator : LiveEvaluator) {held : HeldRule}
    (faithful : HeldRule.Faithful (held :: evaluator.rules)) (record : Record) :
    held.Explained evaluator.rules
      (fun held => (evaluator.matchesRule (some record) held).value)
      (evaluator.explain record held).value := by
  simp only [matchesRule, explain, Logged.value_andThenOk]
  cases filled : (evaluator.cacheFor record).value with
  | error error =>
      refine ⟨fun other => ?_, fun explanation succeeded => ?_⟩
      · simp only [Except.bind, Except.error.injEq]
      · cases succeeded
  | ok cache => exact (Cache.represents_of_checked filled).explained faithful record

/-- Evaluators of either kind fail to explain a rule exactly when they fail to answer it, with
the same error.  Otherwise the explanation tells the answer to each criterion, and as that to the
rule their conjunction. -/
theorem explanations_agree_with_answers {rules : List HeldRule} {held : HeldRule}
    (faithful : HeldRule.Faithful (held :: rules)) (options : Options) (record : Record) :
    (∀ schema evaluator, (Evaluator.withOptions schema rules options).value = .ok evaluator →
      held.Explained rules (fun held => (evaluator.matchesRule (some record) held).value)
        (evaluator.explain record held).value) ∧
    ∀ catalog, let evaluator : LiveEvaluator := ⟨catalog, rules, options⟩
      held.Explained rules (fun held => (evaluator.matchesRule (some record) held).value)
        (evaluator.explain record held).value := by
  constructor
  · intro schema evaluator built
    exact (Evaluator.represents_of_built built).explained faithful record
  · intro catalog evaluator
    exact evaluator.explained faithful record

/-- An amount of twelve is above one and not below nine, and each of the two is told on its own. -/
theorem explanations_agree_with_answers_on_range :
    let schema : Schema :=
      ⟨fun _ => default, ⟨"Order", [⟨"Amount", .scalar (.signed .bits32), false, true⟩]⟩⟩
    let above : Criterion := ⟨"Amount", "GreaterThan", some "1"⟩
    let below : Criterion := ⟨"Amount", "LessThan", some "9"⟩
    let range : HeldRule := ⟨1, ⟨"range", [above, below]⟩⟩
    let single : HeldRule := ⟨2, ⟨"below", [below]⟩⟩
    let evaluator : Evaluator := ⟨(Cache.ofRules schema [range] {}).value⟩
    let record : Record := ⟨schema.root, [.signed 12]⟩
    let explanation : Explanation := ⟨"range", false, [⟨above.text, true⟩, ⟨below.text, false⟩]⟩
    HeldRule.Faithful [range, range] ∧
      (Evaluator.withOptions schema [range] {}).value = .ok evaluator ∧
      (evaluator.explain record range).value = .ok explanation ∧
      (evaluator.matchesRule (some record) range).value = .ok false ∧
      (evaluator.matchesRule (some record) single).value = .ok false := by
  intro schema above below range single evaluator record explanation
  have faithful : HeldRule.Faithful [range, range] := by decide
  have built : (Evaluator.withOptions schema [range] {}).value = .ok evaluator := rfl
  have resolved : schema.resolve "Amount" =
      .ok ⟨"Amount", "Order", .scalar (.signed .bits32), "i32", false, false, [0]⟩ := rfl
  have aboveOk : (above.prepare schema .builtIn).value =
      .ok ⟨above, [0], .compare .greater (.signed 1)⟩ :=
    Criterion.prepare_eq_ok_iff.mpr ⟨_, _, _, rfl, resolved, rfl, rfl⟩
  have belowOk : (below.prepare schema .builtIn).value =
      .ok ⟨below, [0], .compare .less (.signed 9)⟩ :=
    Criterion.prepare_eq_ok_iff.mpr ⟨_, _, _, rfl, resolved, rfl, rfl⟩
  have prepared : (range.rule.prepare schema .builtIn).value = .ok ⟨"range", "Order", _⟩ :=
    Rule.prepare_of_forall₂ (.cons aboveOk (.cons belowOk .nil))
  have told : (evaluator.explain record range).value = .ok explanation := by
    have explained := (Evaluator.represents_of_built built).value_explain faithful record
    rwa [prepared] at explained
  obtain ⟨typed, -⟩ := explanations_agree_with_answers faithful {} record
  obtain ⟨-, outcomes, -, answered⟩ := (typed schema evaluator built).agrees explanation told
  refine ⟨faithful, built, told, answered, ?_⟩
  cases outcomes with
  | cons _ others =>
      cases others with
      | cons second _ => exact second.answered_alone single (by decide) rfl

end RecordRules
