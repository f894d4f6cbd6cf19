import RecordRules.Operator

/-!
# Operator registries

A registry gives a meaning to the names of operators.  A name that is registered again
takes the new meaning.
-/

namespace RecordRules

/-- The making of a test from the operator's name in the rule, the field and the argument. -/
abbrev Strategy := String → Leaf → Option String → Except RuleError Test

/-- Strategies by name, each name once. -/
structure Registry where
  entries : List (String × Strategy)

namespace Registry

def empty : Registry := ⟨[]⟩

def register (registry : Registry) (name : String) (strategy : Strategy) : Registry :=
  ⟨(name, strategy) :: registry.entries.filter (·.1 != name)⟩

/-- The strategy of a name; the case of letters matters. -/
def strategy? (registry : Registry) (name : String) : Option Strategy :=
  (registry.entries.find? (·.1 == name)).map (·.2)

def strategy (registry : Registry) (name : String) : Except RuleError Strategy :=
  match registry.strategy? name with
  | some strategy => .ok strategy
  | none => .error (.unknownOperator name)

def contains (registry : Registry) (name : String) : Bool :=
  registry.entries.any (·.1 == name)

@[simp] theorem strategy?_empty (name : String) : empty.strategy? name = none := rfl

/-- A registered name has the meaning that it was last given. -/
theorem strategy?_register_self (registry : Registry) (name : String) (strategy : Strategy) :
    (registry.register name strategy).strategy? name = some strategy := by
  simp [strategy?, register]

theorem strategy?_register_of_ne (registry : Registry) {name other : String}
    (different : other ≠ name) (strategy : Strategy) :
    (registry.register name strategy).strategy? other = registry.strategy? other := by
  simp only [strategy?, register]
  rw [List.find?_cons_of_neg (by simpa using Ne.symm different), List.find?_filter]
  congr 2
  funext entry
  by_cases same : entry.1 = other <;> simp [same, different]

theorem contains_iff (registry : Registry) (name : String) :
    registry.contains name = (registry.strategy? name).isSome := by
  simp [contains, strategy?, List.isSome_find?]

def builtIn : Registry :=
  Operator.all.foldl (fun registry operator => registry.register operator.name operator.build)
    empty

def names (registry : Registry) : List String :=
  (registry.entries.map (·.1)).mergeSort Text.notAfter

def describe (registry : Registry) : String :=
  let listed := ", ".intercalate (registry.names.map Text.quote)
  s!"OperatorRegistry \x7b operators: [{listed}] \x7d"

end Registry

end RecordRules
