import RecordRules.Proofs.Evaluator.Rebuilding

/-!
# One question after another

An evaluator is built and then asked one question after another.  Its rules and plans stay
as they are, so what happens in such a session is what happens at its questions, each
taken alone.  A question to a live evaluator is a session of its own, with a construction
and one question.
-/

namespace RecordRules

inductive Question where
  | matchesRule (record : Option Record) (held : HeldRule)
  | matchingRules (record : Option Record)
  | explain (record : Record) (held : HeldRule)

inductive Answer where
  | holds (outcome : Except RuleError Bool)
  | found (outcome : Except RuleError (List HeldRule))
  | explained (outcome : Except RuleError Explanation)

namespace Question

def record? : Question → Option Record
  | .matchesRule record _ => record
  | .matchingRules record => record
  | .explain record _ => some record

def subject? : Question → Option HeldRule
  | .matchesRule _ held => some held
  | .matchingRules _ => none
  | .explain _ held => some held

def askAll (ask : Question → Logged Answer) : List Question → Logged (List Answer)
  | [] => .quiet []
  | question :: rest =>
      (ask question).andThen fun answer => (askAll ask rest).map (answer :: ·)

variable {ask : Question → Logged Answer}

theorem value_askAll (questions : List Question) :
    (askAll ask questions).value = questions.map fun question => (ask question).value := by
  induction questions with
  | nil => rfl
  | cons question rest ih =>
      rw [askAll, Logged.value_andThen, Logged.value_map, ih, List.map_cons]

theorem picked_askAll {γ : Type} (pick : Event → Option γ) (questions : List Question) :
    (askAll ask questions).picked pick =
      questions.flatMap fun question => (ask question).picked pick := by
  induction questions with
  | nil => rfl
  | cons question rest ih =>
      rw [askAll, Logged.picked_andThen, Logged.picked_map, ih, List.flatMap_cons]

end Question

namespace Evaluator

def ask (evaluator : Evaluator) : Question → Logged Answer
  | .matchesRule record held => (evaluator.matchesRule record held).map .holds
  | .matchingRules record => (evaluator.matchingRules record).map .found
  | .explain record held => (evaluator.explain record held).map .explained

/-- The construction of an evaluator and questions to it; one that fails is asked nothing. -/
def session (schema : Schema) (rules : List HeldRule) (options : Options)
    (questions : List Question) : Logged (Except RuleError (List Answer)) :=
  (withOptions schema rules options).andThenOk fun evaluator =>
    (Question.askAll evaluator.ask questions).map .ok

end Evaluator

namespace LiveEvaluator

def ask (live : LiveEvaluator) : Question → Logged Answer
  | .matchesRule record held => (live.matchesRule record held).map .holds
  | .matchingRules record => (live.matchingRules record).map .found
  | .explain record held => (live.explain record held).map .explained

/-- Questions to a live evaluator. -/
def session (live : LiveEvaluator) (questions : List Question) : Logged (List Answer) :=
  Question.askAll live.ask questions

variable {γ : Type} (pick : Event → Option γ)

theorem picked_ask_of_absent (live : LiveEvaluator) {question : Question}
    (absent : question.record? = none) : (live.ask question).picked pick = [] := by
  cases question with
  | matchesRule record held =>
      obtain rfl : record = none := absent
      rfl
  | matchingRules record =>
      obtain rfl : record = none := absent
      rfl
  | explain record held => cases absent

/-- At a question about a record an evaluator is built for its type, and asked if it comes about. -/
theorem picked_ask_of_present (live : LiveEvaluator) {question : Question} {record : Record}
    (present : question.record? = some record) :
    let built := Evaluator.withOptions (live.schemaOf record) live.rules live.options
    (live.ask question).picked pick = built.picked pick ++
      built.value.toOption.elim [] fun evaluator => (evaluator.ask question).picked pick := by
  intro built
  have typed : record.type = (live.schemaOf record).root := rfl
  have answers : live.AnswersAs built record :=
    answersAs_withOptions live.rules live.options typed
  cases question with
  | matchesRule asked held =>
      obtain rfl : asked = some record := present
      rw [ask, Logged.picked_map, answers.matchesRule_eq, Logged.picked_andThenOk]
      rfl
  | matchingRules asked =>
      obtain rfl : asked = some record := present
      rw [ask, Logged.picked_map, answers.matchingRules_eq, Logged.picked_andThenOk]
      rfl
  | explain asked held =>
      obtain rfl : asked = record := Option.some.inj present
      rw [ask, Logged.picked_map, answers.explain_eq, Logged.picked_andThenOk]
      rfl

end LiveEvaluator

end RecordRules
