import RecordRules.Proofs.Evaluator.Contents

/-!
# Held plans never show

An evaluator prepares its rules once and answers from what it holds; a rule that it does
not have is prepared for the question.  No answer tells the two apart: each is the answer
of a fresh preparation of the rule, and a rule that cannot be prepared is answered with
its error, whether the error was held or arises anew.
-/

namespace RecordRules

namespace Cache.Represents

variable {schema : Schema} {registry : Registry} {rules : List HeldRule} {cache : Cache}

theorem value_matchesRule (represents : cache.Represents schema registry rules)
    {held : HeldRule} (faithful : HeldRule.Faithful (held :: rules)) (record : Record) :
    (cache.matchesRule record held).value =
      (held.rule.prepare schema registry).value.map (·.holds record) := by
  cases found : planOf? cache.plans held.handle with
  | some plan =>
      have same := represents.plan_eq faithful found
      simp only [matchesRule, found, Logged.value_quiet, same]
  | none =>
      simp only [matchesRule, found, represents.schema_eq, represents.registry_eq]

/-- An explanation of a rule is that of a fresh preparation of it. -/
theorem value_explain (represents : cache.Represents schema registry rules)
    {held : HeldRule} (faithful : HeldRule.Faithful (held :: rules)) (record : Record) :
    (cache.explain record held).value =
      (held.rule.prepare schema registry).value.map (·.explain record) := by
  cases found : planOf? cache.plans held.handle with
  | some plan =>
      have same := represents.plan_eq faithful found
      simp only [explain, found, Logged.value_quiet, same]
  | none =>
      simp only [explain, found, Logged.value_map, represents.schema_eq, represents.registry_eq]

end Cache.Represents

namespace Evaluator

/-- Whatever its options and rules are, and whether a rule is among them or not, an evaluator
answers about a record as the rule prepared afresh does. -/
theorem answers_eq_fresh_preparation {schema : Schema} {rules : List HeldRule}
    {options : Options} {evaluator : Evaluator}
    (built : (withOptions schema rules options).value = .ok evaluator)
    (record : Record) (held : HeldRule) (faithful : HeldRule.Faithful (held :: rules)) :
    (evaluator.matchesRule (some record) held).value =
        (held.rule.prepare schema options.registry).value.map (·.holds record) ∧
      (evaluator.explain record held).value =
        (held.rule.prepare schema options.registry).value.map (·.explain record) := by
  have represents := represents_of_built built
  exact ⟨represents.value_matchesRule faithful record, represents.value_explain faithful record⟩

/-- A rule that occurs twice, has a twin and cannot be prepared is answered with its error. -/
theorem answers_of_repeated_refused_rule :
    let schema : Schema := ⟨fun _ => default, ⟨"Order", []⟩⟩
    let refused : Rule := ⟨"refused", [⟨"Amount", "IsNull", none⟩]⟩
    let rules : List HeldRule := [⟨1, refused⟩, ⟨2, refused⟩, ⟨3, ⟨"all", []⟩⟩, ⟨1, refused⟩]
    let evaluator : Evaluator := ⟨(Cache.ofRules schema rules {}).value⟩
    let record : Record := ⟨schema.root, []⟩
    let error : RuleError := .invalidPath "Amount" "Amount" "Order"
    (withOptions schema rules {}).value = .ok evaluator ∧
      HeldRule.Faithful (⟨1, refused⟩ :: rules) ∧
      (evaluator.matchesRule (some record) ⟨1, refused⟩).value = .error error ∧
      (evaluator.explain record ⟨1, refused⟩).value = .error error := by
  intro schema refused rules evaluator record error
  have built : (withOptions schema rules {}).value = .ok evaluator := rfl
  have faithful : HeldRule.Faithful (⟨1, refused⟩ :: rules) := by decide
  have prepared : (refused.prepare schema Registry.builtIn).value = .error error := rfl
  have answers := answers_eq_fresh_preparation built record ⟨1, refused⟩ faithful
  simp only [prepared] at answers
  exact ⟨built, faithful, answers⟩

end Evaluator

end RecordRules
