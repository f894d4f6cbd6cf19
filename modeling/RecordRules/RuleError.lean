import RecordRules.Json.Fault

/-!
# Errors of rules

The reasons for which a rule cannot be read or cannot be applied to records of a type,
and their messages.  All of them are mistakes of the rule, none of the record.
-/

namespace RecordRules

/-- What was given where an operator needs another argument. -/
inductive Supplied where
  | nothing
  | text (argument : String)
deriving DecidableEq, Repr

/-- The reasons for which a rule is refused. -/
inductive RuleError where
  /-- No readable field of the segment's name on the type of that name. -/
  | invalidPath (path segment typeName : String)
  | unknownOperator (operator : String)
  | operatorNotForType (operator path typeName : String)
  | argumentNotOfType (operator expected : String) (supplied : Supplied)
  | notReadable (fault : Json.Fault)
deriving DecidableEq, Repr

def Supplied.describe : Supplied → String
  | .nothing => "null None"
  | .text argument => s!"String Some({Text.quote argument})"

def RuleError.message : RuleError → String
  | .invalidPath path segment typeName =>
      s!"无效的属性路径 '{path}': 类型 {typeName} 上没有可读属性 '{segment}'"
  | .unknownOperator operator => s!"无法识别的操作符: {operator}"
  | .operatorNotForType operator path typeName =>
      s!"操作符 {operator} 不支持属性 '{path}' 的类型 {typeName}"
  | .argumentNotOfType operator expected supplied =>
      s!"操作符 {operator} 的参数类型无效: 提供的是 {supplied.describe}, 期望 {expected}"
  | .notReadable fault => s!"规则解析失败: {fault.message}"

end RecordRules
