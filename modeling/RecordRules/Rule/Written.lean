import RecordRules.Json.Text
import RecordRules.Rule.Basic

/-!
# Writing rules and explanations

A rule is written over several lines with two blanks for each level; an explanation is
written on one line without blanks between its parts.
-/

namespace RecordRules

open Json

def between (separator : List Char) : List (List Char) → List Char
  | [] => []
  | [part] => part
  | part :: rest => part ++ separator ++ between separator rest

/-- A line break and the blanks of a level. -/
def newLine (level : Nat) : List Char :=
  '\n' :: List.replicate (2 * level) ' '

def spacedMember (key : String) (value : List Char) : List Char :=
  writeText key ++ ':' :: ' ' :: value

/-- An object over several lines, the closing brace at the given level. -/
def spacedObject (level : Nat) (parts : List (List Char)) : List Char :=
  '\x7b' :: (newLine (level + 1) ++ between (',' :: newLine (level + 1)) parts
    ++ newLine level ++ ['\x7d'])

/-- A list over several lines; an empty one takes no line. -/
def spacedList (level : Nat) : List (List Char) → List Char
  | [] => ['[', ']']
  | parts =>
      '[' :: (newLine (level + 1) ++ between (',' :: newLine (level + 1)) parts
        ++ newLine level ++ [']'])

def writeArgument : Option String → List Char
  | none => "null".toList
  | some value => writeText value

def Criterion.writeAt (level : Nat) (criterion : Criterion) : List Char :=
  spacedObject level
    [spacedMember "property_path" (writeText criterion.path),
      spacedMember "operator" (writeText criterion.operator),
      spacedMember "value" (writeArgument criterion.value)]

/-- A rule as a JSON text over several lines. -/
def Rule.toJson (rule : Rule) : String :=
  String.ofList <|
    spacedObject 0
      [spacedMember "name" (writeText rule.name),
        spacedMember "criteria" (spacedList 1 (rule.criteria.map (·.writeAt 2)))]

/-! ## Lines -/

def compactMember (key : String) (value : List Char) : List Char :=
  writeText key ++ ':' :: value

def compactObject (parts : List (List Char)) : List Char :=
  '\x7b' :: (between [','] parts ++ ['\x7d'])

def writeBool (value : Bool) : List Char :=
  if value then "true".toList else "false".toList

def Outcome.writeLine (outcome : Outcome) : List Char :=
  compactObject
    [compactMember "criterion" (writeText outcome.criterion),
      compactMember "matched" (writeBool outcome.matched)]

/-- An explanation as a JSON text on one line. -/
def Explanation.toLine (explanation : Explanation) : String :=
  String.ofList <|
    compactObject
      [compactMember "rule_name" (writeText explanation.ruleName),
        compactMember "matched" (writeBool explanation.matched),
        compactMember "outcomes"
          ('[' :: (between [','] (explanation.outcomes.map (·.writeLine)) ++ [']']))]

end RecordRules
