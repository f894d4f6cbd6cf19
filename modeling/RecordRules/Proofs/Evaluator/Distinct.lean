import RecordRules.Proofs.Evaluator.Contents

/-!
# The different rules of a set

A list may name a rule several times.  Filling a set prepares each handle once, where it
first occurs, and passes over the repetitions.  What happens while a set is filled is what
happens while its different rules are prepared, one after another.
-/

namespace RecordRules

namespace HeldRule

/-- The rules with each handle once, where it first occurs. -/
def distinct : List HeldRule → List HeldRule
  | [] => []
  | held :: rest => held :: (distinct rest).filter (·.handle != held.handle)

theorem distinct_sublist (rules : List HeldRule) : (distinct rules).Sublist rules := by
  induction rules with
  | nil => exact .refl []
  | cons held rest ih => exact (List.filter_sublist.trans ih).cons_cons held

theorem nodup_distinct (rules : List HeldRule) : ((distinct rules).map (·.handle)).Nodup := by
  induction rules with
  | nil => exact List.nodup_nil
  | cons held rest ih =>
      rw [distinct, List.map_cons, List.nodup_cons]
      constructor
      · intro again
        obtain ⟨other, kept, same⟩ := List.mem_map.mp again
        simp [same] at kept
      · exact ih.sublist (List.filter_sublist.map _)

/-- What is left are the rules that are the first of their handle. -/
theorem mem_distinct_iff {rules : List HeldRule} {held : HeldRule} :
    held ∈ distinct rules ↔ rules.find? (·.handle == held.handle) = some held := by
  induction rules with
  | nil => simp [distinct]
  | cons first rest ih =>
      rw [distinct, List.mem_cons, List.mem_filter, ih]
      by_cases same : first.handle = held.handle
      · simp [same, eq_comm]
      · have different : held ≠ first := fun equal => same (equal ▸ rfl)
        simp [same, different, Ne.symm same]

end HeldRule

namespace Cache

open HeldRule

variable {schema : Schema} {options : Options} {plans : List (Nat × Except RuleError Plan)}

/-- The different rules whose handles hold nothing yet. -/
def missing (plans : List (Nat × Except RuleError Plan)) (rules : List HeldRule) :
    List HeldRule :=
  (distinct rules).filter fun held => (planOf? plans held.handle).isNone

theorem missing_nil_plans (rules : List HeldRule) : missing [] rules = distinct rules := by
  simp [missing]

theorem missing_cons_of_known {held : HeldRule} {plan : Except RuleError Plan}
    (known : planOf? plans held.handle = some plan) (rest : List HeldRule) :
    missing plans (held :: rest) = missing plans rest := by
  have later : ∀ other ∈ distinct rest,
      ((planOf? plans other.handle).isNone && other.handle != held.handle) =
        (planOf? plans other.handle).isNone := by
    intro other _
    by_cases same : other.handle = held.handle
    · simp [same, known]
    · simp [same]
  simp only [missing, distinct, List.filter_cons, known, Option.isNone_some, List.filter_filter]
  exact List.filter_congr later

theorem missing_cons_of_new {held : HeldRule} (new : planOf? plans held.handle = none)
    (plan : Except RuleError Plan) (rest : List HeldRule) :
    missing plans (held :: rest) = held :: missing (plans ++ [(held.handle, plan)]) rest := by
  have later : ∀ other ∈ distinct rest,
      ((planOf? plans other.handle).isNone && other.handle != held.handle) =
        (planOf? (plans ++ [(held.handle, plan)]) other.handle).isNone := by
    intro other _
    rw [planOf?_append]
    by_cases same : held.handle = other.handle
    · simp [← same]
    · rw [planOf?_singleton_of_ne same]
      simp [Ne.symm same]
  simp only [missing, distinct, List.filter_cons, new, Option.isNone_none, if_true,
    List.filter_filter]
  exact congrArg (held :: ·) (List.filter_congr later)

/-- Filling a set adds a plan or an error for each handle that is missing. -/
theorem value_fill (plans : List (Nat × Except RuleError Plan)) (rules : List HeldRule) :
    (fill schema options plans rules).value =
      plans ++ (missing plans rules).map fun held =>
        (held.handle, (held.rule.prepare schema options.registry).value) := by
  induction rules generalizing plans with
  | nil => simp [fill, missing, distinct]
  | cons held rest ih =>
      cases known : planOf? plans held.handle with
      | some plan => simp only [fill, known, ih, missing_cons_of_known known]
      | none =>
          simp only [fill, known, Logged.value_andThen, value_prepareOne, ih,
            missing_cons_of_new known (held.rule.prepare schema options.registry).value,
            List.map_cons, List.append_assoc, List.singleton_append]

/-- While a set is filled, the missing rules are prepared in order, and nothing else happens. -/
theorem events_fill (plans : List (Nat × Except RuleError Plan)) (rules : List HeldRule) :
    (fill schema options plans rules).events =
      (missing plans rules).flatMap fun held => (prepareOne schema options held.rule).events := by
  induction rules generalizing plans with
  | nil => rfl
  | cons held rest ih =>
      cases known : planOf? plans held.handle with
      | some plan => simp only [fill, known, ih, missing_cons_of_known known]
      | none =>
          simp only [fill, known, Logged.events_andThen, ih,
            missing_cons_of_new known (prepareOne schema options held.rule).value,
            List.flatMap_cons]

theorem events_ofRules (schema : Schema) (rules : List HeldRule) (options : Options) :
    (ofRules schema rules options).events =
      ((distinct rules).flatMap fun held => (prepareOne schema options held.rule).events) ++
        [.ready (distinct rules).length] := by
  simp only [ofRules, Logged.events_andThen, events_fill, value_fill, missing_nil_plans,
    List.nil_append, List.length_map]

end Cache

end RecordRules
