import RecordRules.CommandLine

/-!
# The program

Gathers the environment and the files that a run may read, and prints what the run has to
say.
-/

namespace RecordRules.Main

/-- The variables of an environment whose definitions are separated by zeros. -/
def variablesOf (text : String) : List (String × String) :=
  (text.toList.splitOn (Char.ofNat 0)).filterMap fun definition =>
    let name := definition.takeWhile (· != '=')
    match definition.drop name.length with
    | [] => none
    | _ :: value => some (String.ofList name, String.ofList value)

def readText? (path : String) : IO (Option String) := do
  try
    let text ← IO.FS.readFile path
    return some text
  catch _ => return none

/-- The file in which the system shows a process its environment. -/
def environmentFile : String := "/proc/self/environ"

/-- The variables that are looked up one by one where the environment cannot be listed. -/
def knownVariables : List String :=
  ["CONFIG_DIR", "RULE_ENGINE_STRICT_COMPILE", "RULE_ENGINE_VALIDATE_ON_BUILD",
    "RULE_ENGINE_LOG_LEVEL", "RULE_ENGINE_LOG_FORMAT"]

def environment : IO (List (String × String)) := do
  match ← readText? environmentFile with
  | some text => return variablesOf text
  | none =>
      knownVariables.filterMapM fun name => do
        return (← IO.getEnv name).map fun value => (name, value)

end RecordRules.Main

open RecordRules in
def main (words : List String) : IO UInt32 := do
  let environment ← Main.environment
  let files ← (CommandLine.filesOf environment words).filterMapM fun path => do
    return (← Main.readText? path).map fun text => (path, text)
  let read (path : String) : Option String := (files.find? (·.1 == path)).map (·.2)
  let answer := CommandLine.run ⟨read, environment⟩ words
  IO.print answer.output
  return UInt32.ofNat answer.code
