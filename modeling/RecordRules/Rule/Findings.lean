import RecordRules.Record.Path
import RecordRules.Rule.Basic
import RecordRules.Registry
import RecordRules.Text.Digits

/-!
# Findings about rules

What can be criticised in a rule without knowing the records it is for: a lack of
criteria, path segments that are no identifiers, and operators that are not known.
Findings come in the order of the criteria, those about a path before that about the
operator.
-/

namespace RecordRules

/-- Something that is probably wrong with a rule; criteria are counted from zero. -/
inductive Finding where
  | noCriteria (ruleName : String)
  | emptyPath (index : Nat)
  | badSegment (index : Nat) (path segment : String)
  | unknownOperator (index : Nat) (operator : String)
deriving DecidableEq, Repr

def Finding.message : Finding → String
  | .noCriteria ruleName => s!"规则 '{ruleName}' 没有任何条件"
  | .emptyPath index => s!"条件 criteria[{index}] 的属性路径为空"
  | .badSegment index path segment =>
      s!"条件 criteria[{index}] 的属性路径 '{path}' 中的片段 '{segment}' 不是合法标识符"
  | .unknownOperator index operator => s!"条件 criteria[{index}] 使用了未知操作符 '{operator}'"

def isIdentifierStart (c : Char) : Bool :=
  Text.isAsciiLetter c || c == '_' || c == '@'

def isIdentifierRest (c : Char) : Bool :=
  Text.isAsciiLetter c || Text.isDigit c || c == '_'

/-- Identifiers: ASCII letters, digits and underscores, no digit and perhaps an `@` in front. -/
def isIdentifier (segment : String) : Bool :=
  match segment.toList with
  | [] => false
  | c :: rest => isIdentifierStart c && rest.all isIdentifierRest

def pathFindings (index : Nat) (path : String) : List Finding :=
  if path.isEmpty then [.emptyPath index]
  else ((segments path).filter (!isIdentifier ·)).map (.badSegment index path)

def operatorFindings (known : List String) (index : Nat) (operator : String) : List Finding :=
  if known.contains operator then [] else [.unknownOperator index operator]

def criteriaFindings (known : List String) (index : Nat) : List Criterion → List Finding
  | [] => []
  | criterion :: rest =>
      pathFindings index criterion.path ++ operatorFindings known index criterion.operator
        ++ criteriaFindings known (index + 1) rest

def Rule.findings (known : List String) (rule : Rule) : List Finding :=
  (if rule.criteria.isEmpty then [.noCriteria rule.name] else [])
    ++ criteriaFindings known 0 rule.criteria

end RecordRules
