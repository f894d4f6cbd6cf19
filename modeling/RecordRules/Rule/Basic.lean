import RecordRules.Text.Quoted

/-!
# Rules

A rule has a name and a list of criteria, all of which have to hold.  A criterion names
a field by its path, an operator and perhaps an argument.  An explanation lists what
became of each criterion.
-/

namespace RecordRules

/-- One condition of a rule. -/
structure Criterion where
  path : String
  operator : String
  /-- The argument as a text; a missing one differs from an empty one. -/
  value : Option String
deriving DecidableEq, Repr

/-- The criterion as a line of text: its parts with blanks between, the argument in quotes. -/
def Criterion.text (criterion : Criterion) : String :=
  match criterion.value with
  | some value => s!"{criterion.path} {criterion.operator} {Text.quote value}"
  | none => s!"{criterion.path} {criterion.operator}"

/-- A named conjunction of criteria; without criteria it holds of every record. -/
structure Rule where
  name : String
  criteria : List Criterion
deriving DecidableEq, Repr

/-- The text of a criterion and whether it held. -/
structure Outcome where
  criterion : String
  matched : Bool
deriving DecidableEq, Repr

/-- What became of each criterion of a rule, in order, and of the rule. -/
structure Explanation where
  ruleName : String
  matched : Bool
  outcomes : List Outcome
deriving DecidableEq, Repr

def Explanation.failed (explanation : Explanation) : List Outcome :=
  explanation.outcomes.filter (!·.matched)

end RecordRules
