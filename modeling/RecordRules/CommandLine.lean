import RecordRules.Evaluator.Basic
import RecordRules.Record.Document
import RecordRules.Rule.Reader
import RecordRules.Rule.Written
import RecordRules.Settings.Basic

/-!
# The command line

The program takes a file of rules and a document and prints the names of the rules that
hold of the document, or with `--explain` an explanation of each rule on a line of its
own.  Other words that start with two hyphens are passed over.  A rule that cannot be
applied spoils a run without `--explain`; with it, only that rule is left out, but under
strict settings all rules are.
-/

namespace RecordRules.CommandLine

/-- The exit code and the standard output of a run. -/
structure Answer where
  code : Nat
  output : String
deriving DecidableEq, Repr

/-- A run that fails prints nothing. -/
def Answer.failure : Answer := ⟨1, ""⟩

def Answer.lines (lines : List String) : Answer :=
  ⟨0, String.join (lines.map (· ++ "\n"))⟩

/-- What a run can see: the texts of files that can be read, and the environment. -/
structure Surroundings where
  read : String → Option String
  environment : List (String × String)

def programName : String := "rule-match"

/-- The settings of a run; settings that cannot be loaded are the usual ones. -/
def settings (surroundings : Surroundings) : Settings :=
  (Settings.load? surroundings.read surroundings.environment programName).getD {}

def isOption (word : String) : Bool :=
  ['-', '-'].isPrefixOf word.toList

def asksToExplain (words : List String) : Bool :=
  words.contains "--explain"

/-- Rules with a handle each, by their place in the file. -/
def hold (rules : List Rule) : List HeldRule :=
  rules.zipIdx.map fun (rule, handle) => ⟨handle, rule⟩

/-- The types of documents refer to no catalog. -/
def emptyCatalog : Catalog := fun _ => ⟨"", []⟩

def evaluator (settings : Settings) (rules : List Rule) : LiveEvaluator :=
  { catalog := emptyCatalog
    rules := hold rules
    options :=
      { registry := .builtIn
        strict := settings.strictCompile
        reportsFindings := settings.validateOnBuild } }

def load? (read : String → Option String) (rulesPath documentPath : String) :
    Option (List Rule × Json) := do
  let rulesText ← read rulesPath
  let rules ← (Rule.listOfJson rulesText).toOption
  let documentText ← read documentPath
  let document ← (Json.ofText documentText).toOption
  some (rules, document)

def matchingRun (evaluator : LiveEvaluator) (document : Json) : Answer :=
  match (evaluator.matchingRules (some document.record)).value with
  | .error _ => .failure
  | .ok found => .lines (found.map (·.rule.name))

/-- The explanations of the rules that can be applied to a document. -/
def explainingRun (evaluator : LiveEvaluator) (document : Json) : Answer :=
  .lines (evaluator.rules.filterMap fun held =>
    match (evaluator.explain document.record held).value with
    | .error _ => none
    | .ok explanation => some explanation.toLine)

/-- The files that a run may read. -/
def filesOf (environment : List (String × String)) (words : List String) : List String :=
  let (defaults, named) := Settings.filePaths (Settings.directoryOf environment) programName
  Source.candidates defaults ++ Source.candidates named ++ words.filter (!isOption ·)

def run (surroundings : Surroundings) (words : List String) : Answer :=
  match words.filter (!isOption ·) with
  | [rulesPath, documentPath] =>
      match load? surroundings.read rulesPath documentPath with
      | none => .failure
      | some (rules, document) =>
          let evaluator := evaluator (settings surroundings) rules
          if asksToExplain words then explainingRun evaluator document
          else matchingRun evaluator document
  | _ => .failure

end RecordRules.CommandLine
