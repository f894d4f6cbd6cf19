import RecordRules.Proofs.CommandLine.Loading
import RecordRules.Proofs.Evaluator.Explanation
import RecordRules.Proofs.Evaluator.Rebuilding

/-!
# What runs tell about a document

What can be told of a rule and a document is the explanation of the rule, which there is
exactly if the rule can be prepared for the type of the document.  A run without
explanations tells the names of the rules that are explained as holding, provided that all
rules are explained.  A run with explanations tells all that there are, unless strict
settings spoil the whole set.
-/

namespace RecordRules.CommandLine

def schemaOf (document : Json) : Schema :=
  ⟨emptyCatalog, document.record.type⟩

def prepared (document : Json) (rule : Rule) : Except RuleError Plan :=
  (rule.prepare (schemaOf document) .builtIn).value

def explanation? (document : Json) (rule : Rule) : Option Explanation :=
  ((prepared document rule).map (·.explain document.record)).toOption

/-- Rules, in order, with their explanations on a document. -/
def Explained (document : Json) : List Rule → List Explanation → Prop :=
  List.Forall₂ fun rule explanation => explanation? document rule = some explanation

def SomeRefused (document : Json) (rules : List Rule) : Prop :=
  ∃ rule ∈ rules, explanation? document rule = none

section Explanations

variable {document : Json} {rules : List Rule}

theorem explanation?_eq_some_iff {rule : Rule} {explanation : Explanation} :
    explanation? document rule = some explanation ↔
      ∃ plan, prepared document rule = .ok plan ∧ plan.explain document.record = explanation := by
  unfold explanation?
  cases prepared document rule with
  | error error => simp [Except.map, Except.toOption]
  | ok plan => simp [Except.map, Except.toOption]

theorem explanation?_eq_none_iff {rule : Rule} :
    explanation? document rule = none ↔ ∃ error, prepared document rule = .error error := by
  unfold explanation?
  cases prepared document rule with
  | error error => simp [Except.map, Except.toOption]
  | ok plan => simp [Except.map, Except.toOption]

theorem explained_or_refused (document : Json) (rules : List Rule) :
    (∃ explanations, Explained document rules explanations) ∨ SomeRefused document rules := by
  induction rules with
  | nil => exact .inl ⟨[], .nil⟩
  | cons rule rest ih =>
      cases told : explanation? document rule with
      | none => exact .inr ⟨rule, List.mem_cons_self, told⟩
      | some explanation =>
          rcases ih with ⟨explanations, each⟩ | ⟨refused, member, untold⟩
          · exact .inl ⟨explanation :: explanations, .cons told each⟩
          · exact .inr ⟨refused, List.mem_cons_of_mem rule member, untold⟩

theorem Explained.filterMap_eq {explanations : List Explanation}
    (each : Explained document rules explanations) :
    rules.filterMap (explanation? document) = explanations := by
  induction each with
  | nil => rfl
  | cons told _ ih => rw [List.filterMap_cons_some told, ih]

theorem Explained.not_someRefused {explanations : List Explanation}
    (each : Explained document rules explanations) : ¬ SomeRefused document rules := by
  induction each with
  | nil =>
      rintro ⟨refused, member, -⟩
      cases member
  | cons told _ ih =>
      rintro ⟨refused, member, untold⟩
      rcases List.mem_cons.mp member with rfl | inRest
      · cases untold.symm.trans told
      · exact ih ⟨refused, inRest, untold⟩

theorem explained_filterMap (document : Json) (rules : List Rule) :
    Explained document (rules.filter fun rule => (explanation? document rule).isSome)
      (rules.filterMap (explanation? document)) := by
  induction rules with
  | nil => exact .nil
  | cons rule rest ih =>
      cases told : explanation? document rule with
      | none =>
          rw [List.filterMap_cons_none told, List.filter_cons_of_neg (by simp [told])]
          exact ih
      | some explanation =>
          rw [List.filterMap_cons_some told, List.filter_cons_of_pos (by simp [told])]
          exact .cons told ih

/-- The names of the rules that hold are the names in the explanations that say so. -/
theorem Explained.names_eq {explanations : List Explanation}
    (each : Explained document rules explanations) :
    (rules.filter fun rule =>
        (prepared document rule).map (·.holds document.record) = .ok true).map (·.name) =
      (explanations.filter (·.matched)).map (·.ruleName) := by
  induction each with
  | nil => rfl
  | @cons rule explanation rest others told _ ih =>
      obtain ⟨plan, ready, rfl⟩ := explanation?_eq_some_iff.mp told
      have named : (plan.explain document.record).ruleName = rule.name := by
        obtain ⟨checks, -, rfl⟩ := Rule.prepare_eq_ok_iff.mp ready
        rfl
      have holds : decide ((prepared document rule).map (·.holds document.record) = .ok true) =
          plan.holds document.record := by
        rw [ready]
        exact decide_ok_eq_ok_true _
      -- A rule and its explanation are kept or dropped together.
      rw [List.filter_cons, holds, List.filter_cons, Plan.matched_explain]
      cases plan.holds document.record with
      | false => exact ih
      | true => rw [if_pos rfl, if_pos rfl, List.map_cons, List.map_cons, ih, named]

end Explanations

section Held

variable {document : Json} {rules : List Rule} (settings : Settings)

theorem map_rule_hold (rules : List Rule) : (hold rules).map (·.rule) = rules := by
  simp [hold, Function.comp_def]

/-- A handle is the place of its rule, so no two rules share one. -/
theorem faithful_hold (rules : List Rule) : HeldRule.Faithful (hold rules) := by
  intro first firstIn second secondIn same
  simp only [hold, List.mem_map, Prod.exists, List.mem_zipIdx_iff_getElem?] at firstIn secondIn
  obtain ⟨rule, place, stands, rfl⟩ := firstIn
  obtain ⟨other, otherPlace, otherStands, rfl⟩ := secondIn
  obtain rfl : place = otherPlace := same
  exact Option.some.inj (stands.symm.trans otherStands)

theorem refusal?_eq_none_iff :
    (evaluator settings rules).refusal? document.record = none ↔
      ¬ SomeRefused document rules := by
  rw [LiveEvaluator.refusal?, firstRefusal?_eq_none_iff]
  constructor
  · rintro ready ⟨rule, member, untold⟩
    rw [← map_rule_hold rules] at member
    obtain ⟨held, heldIn, rfl⟩ := List.mem_map.mp member
    obtain ⟨plan, succeeded⟩ := ready held heldIn
    obtain ⟨error, failed⟩ := explanation?_eq_none_iff.mp untold
    cases succeeded.symm.trans failed
  · intro none held heldIn
    cases ready : prepared document held.rule with
    | ok plan => exact ⟨plan, ready⟩
    | error error =>
        have member : held.rule ∈ rules := map_rule_hold rules ▸ List.mem_map_of_mem heldIn
        exact absurd ⟨held.rule, member, explanation?_eq_none_iff.mpr ⟨error, ready⟩⟩ none

theorem matchingRules_of_explained {explanations : List Explanation}
    (each : Explained document rules explanations) :
    ∃ found, ((evaluator settings rules).matchingRules (some document.record)).value = .ok found ∧
      found.map (·.rule.name) = (explanations.filter (·.matched)).map (·.ruleName) := by
  have all := (refusal?_eq_none_iff settings).mpr each.not_someRefused
  have found := (evaluator settings rules).value_matchingRules document.record
    (faithful_hold rules)
  rw [all] at found
  refine ⟨_, found, ?_⟩
  rw [← each.names_eq]
  conv_rhs => rw [← map_rule_hold rules, List.filter_map, List.map_map]
  rfl

theorem matchingRun_of_explained {explanations : List Explanation}
    (each : Explained document rules explanations) :
    matchingRun (evaluator settings rules) document =
      .lines ((explanations.filter (·.matched)).map (·.ruleName)) := by
  obtain ⟨found, succeeded, names⟩ := matchingRules_of_explained settings each
  rw [matchingRun, succeeded, ← names]

/-- Strict or not, no rule is told to hold as long as some rule cannot be prepared. -/
theorem matchingRun_of_refused (refused : SomeRefused document rules) :
    matchingRun (evaluator settings rules) document = .failure := by
  have found := (evaluator settings rules).value_matchingRules document.record
    (faithful_hold rules)
  cases first : (evaluator settings rules).refusal? document.record with
  | none => exact absurd refused ((refusal?_eq_none_iff settings).mp first)
  | some error =>
      rw [first] at found
      rw [matchingRun, found]

/-- The error with which the settings of a run spoil the explanations of its rules. -/
def spoiling? (rules : List Rule) (document : Json) : Option RuleError :=
  (evaluator settings rules).options.spoiling? (schemaOf document) (hold rules)

variable {settings}

/-- Only strict settings spoil explanations, and only where a rule is refused. -/
theorem spoiling?_eq_none_iff :
    spoiling? settings rules document = none ↔
      settings.strictCompile = false ∨ ¬ SomeRefused document rules := by
  cases strict : settings.strictCompile with
  | false =>
      have unspoiled : spoiling? settings rules document = none :=
        Options.spoiling?_of_lenient strict
      simp [unspoiled]
  | true =>
      have refusal : spoiling? settings rules document =
          (evaluator settings rules).refusal? document.record :=
        Options.spoiling?_of_strict strict
      simp [refusal, refusal?_eq_none_iff]

/-- A rule is explained as it is on its own, unless the settings spoil all explanations. -/
theorem value_explain {held : HeldRule} (member : held ∈ hold rules) :
    ((evaluator settings rules).explain document.record held).value =
      match spoiling? settings rules document with
      | none => (prepared document held.rule).map (·.explain document.record)
      | some error => .error error :=
  (evaluator settings rules).value_explain document.record
    ((faithful_hold rules).cons_mem member)

theorem explainingRun_eq (evaluator : LiveEvaluator) (document : Json) :
    explainingRun evaluator document = .lines (evaluator.rules.filterMap fun held =>
      (evaluator.explain document.record held).value.toOption.map (·.toLine)) := by
  refine congrArg Answer.lines (List.filterMap_congr fun held _ => ?_)
  cases (evaluator.explain document.record held).value with
  | error error => rfl
  | ok explanation => rfl

theorem explainingRun_of_unspoiled (unspoiled : spoiling? settings rules document = none) :
    explainingRun (evaluator settings rules) document =
      .lines ((rules.filterMap (explanation? document)).map (·.toLine)) := by
  have told : ∀ held ∈ hold rules,
      ((evaluator settings rules).explain document.record held).value.toOption =
        explanation? document held.rule := by
    intro held member
    rw [value_explain member, unspoiled]
    rfl
  rw [explainingRun_eq, List.map_filterMap]
  refine congrArg Answer.lines ?_
  conv_rhs => rw [← map_rule_hold rules, List.filterMap_map]
  exact List.filterMap_congr fun held member => congrArg _ (told held member)

theorem explainingRun_of_spoiled {error : RuleError}
    (spoiled : spoiling? settings rules document = some error) :
    explainingRun (evaluator settings rules) document = .lines [] := by
  rw [explainingRun_eq]
  refine congrArg Answer.lines (List.filterMap_eq_nil_iff.mpr fun held member => ?_)
  rw [value_explain member, spoiled]
  rfl

end Held

end RecordRules.CommandLine
