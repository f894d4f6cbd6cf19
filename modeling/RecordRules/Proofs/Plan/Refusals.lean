import RecordRules.Proofs.Evaluator.Confidentiality
import RecordRules.Proofs.Operator.Table
import RecordRules.Proofs.Plan.Preparation
import RecordRules.Proofs.Record.Resolution

/-!
# What the errors of rules tell

A criterion is refused for one reason, the first that applies: its operator is unknown, its
path leads nowhere, or the operator refuses the field or the argument.  The error says which
it is, in the words of the criterion and of the field's type.  A rule is refused with the
error of its first criterion that is refused by itself.
-/

namespace RecordRules

/-! ## The reason for which a criterion is refused -/

section Criteria

variable (schema : Schema) (registry : Registry)

/-- The reasons for which a criterion is refused, each with its error; at most one applies. -/
inductive Criterion.RefusedFor (criterion : Criterion) : RuleError → Prop where
  | unknownOperator (unknown : registry.strategy? criterion.operator = none) :
      RefusedFor criterion (.unknownOperator criterion.operator)
  | nowhere {strategy : Strategy} {segment typeName : String}
      (known : registry.strategy? criterion.operator = some strategy)
      (failed : schema.resolve criterion.path =
        .error (.invalidPath criterion.path segment typeName))
      (piece : segment ∈ segments criterion.path) :
      RefusedFor criterion (.invalidPath criterion.path segment typeName)
  | strategy {strategy : Strategy} {leaf : Leaf} {error : RuleError}
      (known : registry.strategy? criterion.operator = some strategy)
      (resolved : schema.resolve criterion.path = .ok leaf)
      (failed : strategy criterion.operator leaf criterion.value = .error error) :
      RefusedFor criterion error

variable {schema registry} {criterion : Criterion} {error : RuleError}

theorem Criterion.value_prepare_of_unknown
    (unknown : registry.strategy? criterion.operator = none) :
    (criterion.prepare schema registry).value =
      .error (.unknownOperator criterion.operator) := by
  simp only [prepare, Registry.strategy, unknown, Logged.value_quiet]

theorem Criterion.value_prepare_of_failed {strategy : Strategy}
    (known : registry.strategy? criterion.operator = some strategy)
    (failed : schema.resolve criterion.path = .error error) :
    (criterion.prepare schema registry).value = .error error := by
  simp only [prepare, Registry.strategy, known, failed, Logged.value_quiet]

theorem Criterion.value_prepare_of_resolved {strategy : Strategy} {leaf : Leaf}
    (known : registry.strategy? criterion.operator = some strategy)
    (resolved : schema.resolve criterion.path = .ok leaf) :
    (criterion.prepare schema registry).value =
      (strategy criterion.operator leaf criterion.value).map
        fun test => ⟨criterion, leaf.slots, test⟩ := by
  simp only [prepare, Registry.strategy, known, resolved]

/-- A criterion is refused exactly if there is a reason, and with the error of the reason. -/
theorem Criterion.prepare_eq_error_iff :
    (criterion.prepare schema registry).value = .error error ↔
      criterion.RefusedFor schema registry error := by
  constructor
  · intro refused
    cases known : registry.strategy? criterion.operator with
    | none =>
        rw [value_prepare_of_unknown known] at refused
        obtain rfl := Except.error.inj refused
        exact .unknownOperator known
    | some strategy =>
        cases resolved : schema.resolve criterion.path with
        | error reason =>
            rw [value_prepare_of_failed known resolved] at refused
            obtain rfl := Except.error.inj refused
            obtain ⟨segment, piece, typeName, rfl⟩ :=
              Schema.exists_segment_of_resolve_eq_error resolved
            exact .nowhere known resolved piece
        | ok leaf =>
            rw [value_prepare_of_resolved known resolved] at refused
            cases made : strategy criterion.operator leaf criterion.value with
            | ok test =>
                rw [made] at refused
                cases refused
            | error reason =>
                rw [made] at refused
                obtain rfl := Except.error.inj refused
                exact .strategy known resolved made
  · intro reason
    cases reason with
    | unknownOperator unknown => exact value_prepare_of_unknown unknown
    | nowhere known failed piece => exact value_prepare_of_failed known failed
    | strategy known resolved failed =>
        rw [value_prepare_of_resolved known resolved, failed]
        rfl

end Criteria

/-! ## The first criterion that is refused -/

section Lists

variable (schema : Schema) (registry : Registry)

/-- The first criterion of a list that is refused: all criteria before it can be prepared. -/
structure FirstRefused (criteria : List Criterion) (index : Nat) (criterion : Criterion)
    (error : RuleError) : Prop where
  stands : criteria[index]? = some criterion
  refused : (criterion.prepare schema registry).value = .error error
  foremost : ∀ (earlier : Nat) (other : Criterion), earlier < index →
    criteria[earlier]? = some other → ∃ check, (other.prepare schema registry).value = .ok check

variable {schema registry} {criterion : Criterion} {rest : List Criterion} {error : RuleError}

theorem FirstRefused.head (refused : (criterion.prepare schema registry).value = .error error) :
    FirstRefused schema registry (criterion :: rest) 0 criterion error where
  stands := rfl
  refused := refused
  foremost _ _ before := absurd before (Nat.not_lt_zero _)

/-- Behind a criterion that can be prepared, the first refusal is that of the rest. -/
theorem FirstRefused.cons_iff {check : Check}
    (prepared : (criterion.prepare schema registry).value = .ok check) {index : Nat}
    {other : Criterion} :
    FirstRefused schema registry (criterion :: rest) index other error ↔
      ∃ later, index = later + 1 ∧ FirstRefused schema registry rest later other error := by
  constructor
  · rintro ⟨stands, refused, foremost⟩
    cases index with
    | zero =>
        obtain rfl := Option.some.inj stands
        cases prepared.symm.trans refused
    | succ later =>
        refine ⟨later, rfl, stands, refused, ?_⟩
        intro earlier another before standsBefore
        exact foremost (earlier + 1) another (Nat.succ_lt_succ before) standsBefore
  · rintro ⟨later, rfl, stands, refused, foremost⟩
    refine ⟨stands, refused, ?_⟩
    rintro (_ | earlier) another before standsBefore
    · obtain rfl := Option.some.inj standsBefore
      exact ⟨check, prepared⟩
    · exact foremost earlier another (Nat.lt_of_succ_lt_succ before) standsBefore

/-- Criteria are refused with the error of the first that is refused by itself. -/
theorem prepareAll_eq_error_iff {criteria : List Criterion} :
    (prepareAll schema registry criteria).value = .error error ↔
      ∃ index criterion, FirstRefused schema registry criteria index criterion error := by
  induction criteria with
  | nil =>
      constructor
      · intro refused
        cases refused
      · rintro ⟨index, criterion, stands, -, -⟩
        cases stands
  | cons criterion rest ih =>
      rw [prepareAll, Logged.value_andThenOk]
      cases prepared : (criterion.prepare schema registry).value with
      | error reason =>
          constructor
          · intro refused
            obtain rfl := Except.error.inj refused
            exact ⟨0, criterion, .head prepared⟩
          · rintro ⟨index, other, first⟩
            cases index with
            | zero =>
                obtain rfl := Option.some.inj first.stands
                obtain rfl := Except.error.inj (prepared.symm.trans first.refused)
                rfl
            | succ later =>
                obtain ⟨check, ready⟩ := first.foremost 0 criterion (Nat.succ_pos later) rfl
                cases prepared.symm.trans ready
      | ok check =>
          -- What is prepared here changes the plan behind it, and no error.
          have onward : ((prepareAll schema registry rest).value.map (check :: ·)) = .error error ↔
              (prepareAll schema registry rest).value = .error error := by
            cases (prepareAll schema registry rest).value <;> simp [Except.map]
          refine (onward.trans ih).trans ⟨?_, ?_⟩
          · rintro ⟨later, other, first⟩
            exact ⟨later + 1, other, (FirstRefused.cons_iff prepared).mpr ⟨later, rfl, first⟩⟩
          · rintro ⟨index, other, first⟩
            obtain ⟨later, -, behind⟩ := (FirstRefused.cons_iff prepared).mp first
            exact ⟨later, other, behind⟩

theorem exists_firstRefused {criteria : List Criterion} {index : Nat}
    (stands : criteria[index]? = some criterion)
    (refused : (criterion.prepare schema registry).value = .error error) :
    ∃ first other reason, first ≤ index ∧
      FirstRefused schema registry criteria first other reason := by
  induction criteria generalizing index with
  | nil => cases stands
  | cons head rest ih =>
      cases prepared : (head.prepare schema registry).value with
      | error reason => exact ⟨0, head, reason, Nat.zero_le index, .head prepared⟩
      | ok check =>
          cases index with
          | zero =>
              obtain rfl := Option.some.inj stands
              cases prepared.symm.trans refused
          | succ later =>
              obtain ⟨first, other, reason, before, found⟩ := ih stands
              exact ⟨first + 1, other, reason, Nat.succ_le_succ before,
                (FirstRefused.cons_iff prepared).mpr ⟨first, rfl, found⟩⟩

theorem Rule.prepare_eq_error_iff {rule : Rule} :
    (rule.prepare schema registry).value = .error error ↔
      ∃ index criterion, FirstRefused schema registry rule.criteria index criterion error := by
  rw [← prepareAll_eq_error_iff, prepare, Logged.value_map]
  cases (prepareAll schema registry rule.criteria).value with
  | error reason => simp [Except.map]
  | ok checks => simp [Except.map]

end Lists

end RecordRules
