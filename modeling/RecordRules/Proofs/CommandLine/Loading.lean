import Mathlib.Data.List.Basic
import RecordRules.CommandLine

/-!
# How a run starts

A run works on the rules and the document in the two files that its words name.  Either
both are there, or something stands in the way: there are not two names, a file cannot be
read, or its text is not what it should be; then the run fails.  Options, settings and
other files have no part in this.
-/

namespace RecordRules.CommandLine

theorem toOption_eq_some_iff {ε α : Type} {outcome : Except ε α} {value : α} :
    outcome.toOption = some value ↔ outcome = .ok value := by
  cases outcome <;> simp [Except.toOption]

/-- The words that are no options. -/
def operands (words : List String) : List String :=
  words.filter (!isOption ·)

/-- The rules and the document in the files that words name. -/
inductive Loads (surroundings : Surroundings) (words : List String) : List Rule → Json → Prop where
  | intro {rulesPath documentPath rulesText documentText : String} {rules : List Rule}
      {document : Json} (named : operands words = [rulesPath, documentPath])
      (rulesRead : surroundings.read rulesPath = some rulesText)
      (rulesParsed : Rule.listOfJson rulesText = .ok rules)
      (documentRead : surroundings.read documentPath = some documentText)
      (documentParsed : Json.ofText documentText = .ok document) :
      Loads surroundings words rules document

/-- The reasons for which a run has no rules or no document. -/
inductive CannotStart (surroundings : Surroundings) (words : List String) : Prop where
  | wrongWords (wrong : (operands words).length ≠ 2)
  | rulesMissing {rulesPath documentPath : String}
      (named : operands words = [rulesPath, documentPath])
      (missing : surroundings.read rulesPath = none)
  | rulesFaulty {rulesPath documentPath rulesText : String} {error : RuleError}
      (named : operands words = [rulesPath, documentPath])
      (rulesRead : surroundings.read rulesPath = some rulesText)
      (faulty : Rule.listOfJson rulesText = .error error)
  | documentMissing {rulesPath documentPath : String}
      (named : operands words = [rulesPath, documentPath])
      (missing : surroundings.read documentPath = none)
  | documentFaulty {rulesPath documentPath documentText : String} {fault : Json.Fault}
      (named : operands words = [rulesPath, documentPath])
      (documentRead : surroundings.read documentPath = some documentText)
      (faulty : Json.ofText documentText = .error fault)

section Starting

variable {surroundings : Surroundings} {words : List String} {rules : List Rule} {document : Json}

theorem load?_eq_some_iff {read : String → Option String} {rulesPath documentPath : String} :
    load? read rulesPath documentPath = some (rules, document) ↔
      ∃ rulesText documentText, read rulesPath = some rulesText ∧
        Rule.listOfJson rulesText = .ok rules ∧ read documentPath = some documentText ∧
        Json.ofText documentText = .ok document := by
  simp only [load?, Option.bind_eq_bind, Option.bind_eq_some_iff, toOption_eq_some_iff,
    Option.some.injEq, Prod.mk.injEq]
  constructor
  · rintro ⟨rulesText, rulesRead, _, rulesParsed, documentText, documentRead, _, documentParsed,
      rfl, rfl⟩
    exact ⟨rulesText, documentText, rulesRead, rulesParsed, documentRead, documentParsed⟩
  · rintro ⟨rulesText, documentText, rulesRead, rulesParsed, documentRead, documentParsed⟩
    exact ⟨rulesText, rulesRead, rules, rulesParsed, documentText, documentRead, document,
      documentParsed, rfl, rfl⟩

/-- A run has rules and a document, or there is a reason why it has not. -/
theorem loads_or_cannotStart (surroundings : Surroundings) (words : List String) :
    (∃ rules document, Loads surroundings words rules document) ∨
      CannotStart surroundings words := by
  by_cases two : (operands words).length = 2
  · obtain ⟨rulesPath, documentPath, named⟩ := List.length_eq_two.mp two
    cases rulesRead : surroundings.read rulesPath with
    | none => exact .inr (.rulesMissing named rulesRead)
    | some rulesText =>
        cases rulesParsed : Rule.listOfJson rulesText with
        | error error => exact .inr (.rulesFaulty named rulesRead rulesParsed)
        | ok rules =>
            cases documentRead : surroundings.read documentPath with
            | none => exact .inr (.documentMissing named documentRead)
            | some documentText =>
                cases documentParsed : Json.ofText documentText with
                | error fault => exact .inr (.documentFaulty named documentRead documentParsed)
                | ok document =>
                    exact .inl ⟨rules, document,
                      .intro named rulesRead rulesParsed documentRead documentParsed⟩
  · exact .inr (.wrongWords two)

theorem CannotStart.not_loads (stuck : CannotStart surroundings words) :
    ¬ Loads surroundings words rules document := by
  rintro ⟨named, rulesRead, rulesParsed, documentRead, documentParsed⟩
  cases stuck <;> simp_all

theorem run_of_loads (loads : Loads surroundings words rules document) :
    run surroundings words =
      if asksToExplain words then explainingRun (evaluator (settings surroundings) rules) document
      else matchingRun (evaluator (settings surroundings) rules) document := by
  obtain ⟨named, rulesRead, rulesParsed, documentRead, documentParsed⟩ := loads
  have loaded := load?_eq_some_iff.mpr
    ⟨_, _, rulesRead, rulesParsed, documentRead, documentParsed⟩
  rw [operands] at named
  simp only [run, named, loaded]

theorem run_of_cannotStart (stuck : CannotStart surroundings words) :
    run surroundings words = .failure := by
  unfold run
  split
  · next rulesPath documentPath named =>
      cases loaded : load? surroundings.read rulesPath documentPath with
      | none => rfl
      | some found =>
          obtain ⟨rulesText, documentText, rulesRead, rulesParsed, documentRead, documentParsed⟩ :=
            load?_eq_some_iff.mp loaded
          exact absurd (.intro named rulesRead rulesParsed documentRead documentParsed)
            stuck.not_loads
  · rfl

end Starting

section Transfer

/-- Two runs that find the same texts in the two files that they name. -/
def SameFiles (first second : Surroundings) (words : List String) : Prop :=
  ∀ rulesPath documentPath, operands words = [rulesPath, documentPath] →
    first.read rulesPath = second.read rulesPath ∧
      first.read documentPath = second.read documentPath

variable {first second : Surroundings} {words others : List String}

theorem SameFiles.refl (surroundings : Surroundings) (words : List String) :
    SameFiles surroundings surroundings words :=
  fun _ _ _ => ⟨rfl, rfl⟩

theorem SameFiles.symm (same : SameFiles first second words)
    (named : operands others = operands words) : SameFiles second first others := by
  intro rulesPath documentPath twoNamed
  obtain ⟨sameRules, sameDocument⟩ := same rulesPath documentPath (named.symm.trans twoNamed)
  exact ⟨sameRules.symm, sameDocument.symm⟩

/-- The same names and the same texts give the same rules and the same document. -/
theorem Loads.transfer {rules : List Rule} {document : Json} (same : SameFiles first second words)
    (named : operands others = operands words) (loads : Loads first words rules document) :
    Loads second others rules document := by
  obtain ⟨twoNamed, rulesRead, rulesParsed, documentRead, documentParsed⟩ := loads
  obtain ⟨sameRules, sameDocument⟩ := same _ _ twoNamed
  exact .intro (named.trans twoNamed) (sameRules ▸ rulesRead) rulesParsed
    (sameDocument ▸ documentRead) documentParsed

/-- With the same names and the same texts, neither run can start or both can. -/
theorem CannotStart.transfer (same : SameFiles first second words)
    (named : operands others = operands words) (stuck : CannotStart first words) :
    CannotStart second others := by
  rcases loads_or_cannotStart second others with ⟨rules, document, loads⟩ | stuckToo
  · have back : Loads first words rules document :=
      loads.transfer (same.symm named) named.symm
    exact absurd back stuck.not_loads
  · exact stuckToo

end Transfer

end RecordRules.CommandLine
