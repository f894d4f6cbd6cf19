import RecordRules.Rule.Findings

/-!
# Where findings come from

A finding about a rule is one about the criterion that stands at its index, and there it is one
about the path or about the operator.  An operator is found to be unknown exactly if it is not
among the known names.
-/

namespace RecordRules

section Criteria

variable {known : List String} {finding : Finding}

theorem mem_criteriaFindings_iff {start : Nat} {criteria : List Criterion} :
    finding ∈ criteriaFindings known start criteria ↔
      ∃ offset criterion, criteria[offset]? = some criterion ∧
        (finding ∈ pathFindings (start + offset) criterion.path ∨
          finding ∈ operatorFindings known (start + offset) criterion.operator) := by
  induction criteria generalizing start with
  | nil => simp [criteriaFindings]
  | cons criterion rest ih =>
      rw [criteriaFindings, List.mem_append, List.mem_append, ih]
      constructor
      · rintro (here | ⟨offset, other, stands, there⟩)
        · exact ⟨0, criterion, rfl, here⟩
        · refine ⟨offset + 1, other, stands, ?_⟩
          rwa [Nat.add_right_comm, Nat.add_assoc] at there
      · rintro ⟨_ | offset, other, stands, found⟩
        · obtain rfl := Option.some.inj stands
          exact .inl found
        · refine .inr ⟨offset, other, stands, ?_⟩
          rwa [Nat.add_right_comm, Nat.add_assoc]

/-- A finding about a rule is that it has no criteria, or one about a criterion at its index. -/
theorem Rule.mem_findings_iff {rule : Rule} :
    finding ∈ rule.findings known ↔
      rule.criteria = [] ∧ finding = .noCriteria rule.name ∨
        ∃ index criterion, rule.criteria[index]? = some criterion ∧
          (finding ∈ pathFindings index criterion.path ∨
            finding ∈ operatorFindings known index criterion.operator) := by
  rw [findings, List.mem_append, mem_criteriaFindings_iff]
  cases rule.criteria with
  | nil => simp
  | cons criterion rest => simp

theorem mem_pathFindings_iff {index : Nat} {path : String} :
    finding ∈ pathFindings index path ↔
      path = "" ∧ finding = .emptyPath index ∨
        path ≠ "" ∧ ∃ segment ∈ segments path, isIdentifier segment = false ∧
          finding = .badSegment index path segment := by
  by_cases empty : path = ""
  · simp [pathFindings, empty]
  · simp [pathFindings, empty, and_assoc, @eq_comm _ finding]

theorem mem_operatorFindings_iff {index : Nat} {operator : String} :
    finding ∈ operatorFindings known index operator ↔
      operator ∉ known ∧ finding = .unknownOperator index operator := by
  by_cases listed : operator ∈ known
  · simp [operatorFindings, listed]
  · simp [operatorFindings, listed]

end Criteria

end RecordRules
