import RecordRules.Rule.Findings

/-!
# Events

What happens while rules are prepared for records: tests are built, rules are criticised
or refused, and sets of rules become ready.  A computation that leaves events carries them
beside its value, in order, so that diagnostics are data and cannot change an answer.
-/

namespace RecordRules

/-- Something that happens while rules are prepared. -/
inductive Event where
  /-- The strategy of an operator was asked for a test. -/
  | built (operator : String)
  | criticised (ruleName : String) (finding : Finding)
  | refused (ruleName : String) (error : RuleError)
  /-- So many different rules are ready. -/
  | ready (count : Nat)
  /-- A rule outside the set is prepared for one question. -/
  | preparedAlone (ruleName : String)
deriving DecidableEq, Repr

inductive Level where
  | warning
  | detail
deriving DecidableEq, Repr

def Level.name : Level → String
  | .warning => "WARN"
  | .detail => "DEBUG"

structure LogEntry where
  level : Level
  message : String
  ruleName : Option String
  error : Option RuleError
deriving DecidableEq, Repr

/-- The entry that an event leaves in a log; building a test leaves none. -/
def Event.logEntry? : Event → Option LogEntry
  | .built _ => none
  | .criticised ruleName finding =>
      some ⟨.warning, s!"规则校验未通过: {finding.message}", some ruleName, none⟩
  | .refused ruleName error => some ⟨.warning, "规则编译失败", some ruleName, some error⟩
  | .ready count => some ⟨.detail, s!"已编译 {count} 条规则", none, none⟩
  | .preparedAlone ruleName => some ⟨.detail, "规则不在缓存中，临时编译", some ruleName, none⟩

/-- A value with the events on the way to it. -/
structure Logged (α : Type) where
  events : List Event
  value : α

namespace Logged

def quiet {α : Type} (value : α) : Logged α :=
  ⟨[], value⟩

def map {α β : Type} (f : α → β) (logged : Logged α) : Logged β :=
  ⟨logged.events, f logged.value⟩

def andThen {α β : Type} (first : Logged α) (next : α → Logged β) : Logged β :=
  ⟨first.events ++ (next first.value).events, (next first.value).value⟩

/-- One computation after another that may have failed; then nothing more happens. -/
def andThenOk {ε α β : Type} (first : Logged (Except ε α))
    (next : α → Logged (Except ε β)) : Logged (Except ε β) :=
  first.andThen fun
    | .error error => quiet (.error error)
    | .ok value => next value

@[simp] theorem value_quiet {α : Type} (value : α) : (quiet value).value = value := rfl

@[simp] theorem events_quiet {α : Type} (value : α) : (quiet value).events = [] := rfl

@[simp] theorem value_map {α β : Type} (f : α → β) (logged : Logged α) :
    (logged.map f).value = f logged.value := rfl

@[simp] theorem events_map {α β : Type} (f : α → β) (logged : Logged α) :
    (logged.map f).events = logged.events := rfl

@[simp] theorem value_andThen {α β : Type} (first : Logged α) (next : α → Logged β) :
    (first.andThen next).value = (next first.value).value := rfl

@[simp] theorem events_andThen {α β : Type} (first : Logged α) (next : α → Logged β) :
    (first.andThen next).events = first.events ++ (next first.value).events := rfl

theorem value_andThenOk {ε α β : Type} (first : Logged (Except ε α))
    (next : α → Logged (Except ε β)) :
    (first.andThenOk next).value = first.value.bind fun value => (next value).value := by
  unfold andThenOk
  cases h : first.value <;> simp [h, Except.bind]

theorem andThenOk_of_error {ε α β : Type} {first : Logged (Except ε α)} {error : ε}
    (failed : first.value = .error error) (next : α → Logged (Except ε β)) :
    first.andThenOk next = ⟨first.events, .error error⟩ := by
  simp [andThenOk, andThen, failed, quiet]

theorem andThenOk_of_ok {ε α β : Type} {first : Logged (Except ε α)} {value : α}
    (succeeded : first.value = .ok value) (next : α → Logged (Except ε β)) :
    first.andThenOk next = ⟨first.events ++ (next value).events, (next value).value⟩ := by
  simp [andThenOk, andThen, succeeded]

/-- What is picked from the events of a computation, in order. -/
def picked {α γ : Type} (pick : Event → Option γ) (logged : Logged α) : List γ :=
  logged.events.filterMap pick

section Picked

variable {ε α β γ : Type} {pick : Event → Option γ}

@[simp] theorem picked_quiet (value : α) : (quiet value).picked pick = [] := rfl

@[simp] theorem picked_map (f : α → β) (logged : Logged α) :
    (logged.map f).picked pick = logged.picked pick := rfl

@[simp] theorem picked_andThen (first : Logged α) (next : α → Logged β) :
    (first.andThen next).picked pick = first.picked pick ++ (next first.value).picked pick :=
  List.filterMap_append

theorem picked_andThenOk (first : Logged (Except ε α)) (next : α → Logged (Except ε β)) :
    (first.andThenOk next).picked pick =
      first.picked pick ++ first.value.toOption.elim [] fun value => (next value).picked pick := by
  rw [andThenOk, picked_andThen]
  cases first.value <;> rfl

end Picked

/-- What follows a success may as well look at it before it is changed. -/
theorem map_andThenOk {ε α β γ : Type} (first : Logged (Except ε α)) (f : α → β)
    (next : β → Logged (Except ε γ)) :
    (first.map (·.map f)).andThenOk next = first.andThenOk fun value => next (f value) := by
  obtain ⟨events, value⟩ := first
  cases value with
  | error error => rfl
  | ok value => rfl

end Logged

end RecordRules
