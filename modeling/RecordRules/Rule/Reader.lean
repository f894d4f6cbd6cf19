import RecordRules.Json.Reader
import RecordRules.Rule.Basic
import RecordRules.RuleError

/-!
# Reading rules

Rules are JSON objects with the members `name` and `criteria`, criteria objects with the
members `property_path`, `operator` and `value`.  The members may come in any order,
`criteria` and `value` may be missing, other members are passed over, and no member may
be repeated.  A rule or criterion may also be the list of its members' values.
-/

namespace RecordRules

open Json

/-- A field that is taken once: its value, or the fault that it is there already. -/
def takeOnce {α σ : Type} (name : String) (held : Option α) (value : Reader α)
    (put : α → σ) : Except Fault (Reader σ) :=
  match held with
  | some _ => .error (.duplicateField name)
  | none => .ok fun text => (value text).map fun (value, rest) => (put value, rest)

def passOver {σ : Type} (state : σ) : Except Fault (Reader σ) :=
  .ok fun text => (skipValue text).map fun rest => (state, rest)

/-- The value of a member, or the fault that it is missing. -/
def required {α : Type} (name : String) : Option α → Except Fault α
  | some value => .ok value
  | none => .error (.missingField name)

/-- The next element of a list whose places have a meaning; the fault tells of its lack. -/
def requiredPlace {α : Type} (missing : Fault) (first : Bool) (value : Reader α) : Reader α :=
  fun text => do
    let (present, rest) ← nextElement first text
    if present then value rest else .error missing

/-- An element that may be left off at the end of a list, and the end of the list. -/
def lastPlace {α : Type} (absent : α) (value : Reader α) : Reader α := fun text => do
  let (present, rest) ← nextElement false text
  if present then
    let (value, rest) ← value rest
    let rest ← endList rest
    .ok (value, rest)
  else .ok (absent, rest)

namespace Criterion

/-- The members of a criterion as far as they have been read. -/
structure Gathered where
  path : Option String := none
  operator : Option String := none
  value : Option (Option String) := none

def step (held : Gathered) (key : String) : Except Fault (Reader Gathered) :=
  if key = "property_path" then
    takeOnce key held.path textValue fun value => { held with path := some value }
  else if key = "operator" then
    takeOnce key held.operator textValue fun value => { held with operator := some value }
  else if key = "value" then
    takeOnce key held.value (optionalValue textValue) fun value =>
      { held with value := some value }
  else passOver held

def Gathered.complete (held : Gathered) : Except Fault Criterion := do
  let path ← required "property_path" held.path
  let operator ← required "operator" held.operator
  .ok ⟨path, operator, held.value.getD none⟩

def expectedPlaces : String := "struct Criterion with 3 elements"

def placesInside : Reader Criterion := fun text => do
  let (path, rest) ← requiredPlace (.wrongLength 0 expectedPlaces) true textValue text
  let (operator, rest) ← requiredPlace (.wrongLength 1 expectedPlaces) false textValue rest
  let (value, rest) ← lastPlace none (optionalValue textValue) rest
  .ok (⟨path, operator, value⟩, rest)

def membersInside : Reader Criterion := fun text => do
  let (held, rest) ← members step (text.length + 1) true {} text
  let criterion ← held.complete
  .ok (criterion, rest)

def read : Reader Criterion := fun text =>
  match skipSpaces text with
  | [] => .error .endInValue
  | c :: rest =>
      if c = '[' then placesInside rest
      else if c = '\x7b' then membersInside rest
      else .error (wrongType "struct Criterion" (c :: rest))

end Criterion

namespace Rule

/-- The members of a rule as far as they have been read. -/
structure Gathered where
  name : Option String := none
  criteria : Option (List Criterion) := none

def step (held : Gathered) (key : String) : Except Fault (Reader Gathered) :=
  if key = "name" then
    takeOnce key held.name textValue fun value => { held with name := some value }
  else if key = "criteria" then
    takeOnce key held.criteria (listValue Criterion.read) fun value =>
      { held with criteria := some value }
  else passOver held

def Gathered.complete (held : Gathered) : Except Fault Rule := do
  let name ← required "name" held.name
  .ok ⟨name, held.criteria.getD []⟩

def expectedPlaces : String := "struct Rule with 2 elements"

def placesInside : Reader Rule := fun text => do
  let (name, rest) ← requiredPlace (.wrongLength 0 expectedPlaces) true textValue text
  let (criteria, rest) ← lastPlace [] (listValue Criterion.read) rest
  .ok (⟨name, criteria⟩, rest)

def membersInside : Reader Rule := fun text => do
  let (held, rest) ← members step (text.length + 1) true {} text
  let rule ← held.complete
  .ok (rule, rest)

def read : Reader Rule := fun text =>
  match skipSpaces text with
  | [] => .error .endInValue
  | c :: rest =>
      if c = '[' then placesInside rest
      else if c = '\x7b' then membersInside rest
      else .error (wrongType "struct Rule" (c :: rest))

def ofJson (json : String) : Except RuleError Rule :=
  (whole read json.toList).mapError .notReadable

def listOfJson (json : String) : Except RuleError (List Rule) :=
  (whole (listValue read) json.toList).mapError .notReadable

end Rule

end RecordRules
