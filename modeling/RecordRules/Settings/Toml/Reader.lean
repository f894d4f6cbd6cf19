import RecordRules.Settings.Toml.Scalar
import RecordRules.Settings.Toml.Text
import RecordRules.Settings.Toml.Tree

/-!
# Settings in TOML

A reader of TOML: lines of a key, an equals sign and a value, with comments and headers
of tables.  Lists and inline tables are checked and told from other values, but nothing
is read from them, since no field is made of them.
-/

namespace RecordRules.Toml

open Text

/-! ## Keys -/

def isKeyChar (c : Char) : Bool :=
  isAsciiLetter c || isDigit c || c == '_' || c == '-'

def keyPart : Front String := fun text =>
  let key := text.takeWhile isKeyChar
  if key.isEmpty then lineText text else some (String.ofList key, text.drop key.length)

def keyPath : (steps : Nat) → Front (List String)
  | 0, _ => none
  | steps + 1, text => do
      let (part, rest) ← keyPart (skipLineBlanks text)
      match skipLineBlanks rest with
      | '.' :: rest =>
          let (parts, rest) ← keyPath steps rest
          some (part :: parts, rest)
      | rest => some ([part], rest)

/-! ## Values -/

/-- How many lists and inline tables may stand inside each other. -/
def maxDepth : Nat := 80

mutual

/-- A value and the text behind it, with room for some lists and inline tables. -/
def value : (room steps : Nat) → Front Setting
  | _, 0, _ => none
  | room, steps + 1, text =>
      match text with
      | '[' :: rest => if room = 0 then none else listInside (room - 1) steps rest
      | '\x7b' :: rest => if room = 0 then none else tableInside (room - 1) steps [] rest
      | _ =>
          match quotedText text with
          | some (found, rest) => some (.text found, rest)
          | none => bareFront text

def listInside : (room steps : Nat) → Front Setting
  | _, 0, _ => none
  | room, steps + 1, text =>
      match skipFill (text.length + 1) text with
      | ']' :: rest => some (.composite, rest)
      | text => do
          let (_, rest) ← value room steps text
          match skipFill (rest.length + 1) rest with
          | ']' :: rest => some (.composite, rest)
          | ',' :: rest => listInside room steps rest
          | _ => none

/-- The inside of an inline table up to its closing brace, behind the given members. -/
def tableInside : (room steps : Nat) → Members → Front Setting
  | _, 0, _, _ => none
  | room, steps + 1, members, text =>
      match skipFill (text.length + 1) text with
      | '\x7d' :: rest => some (tableSetting members, rest)
      | text => do
          let (path, rest) ← keyPath (text.length + 1) text
          let rest ← mark '=' rest
          let (setting, rest) ← value room steps (skipLineBlanks rest)
          let members ← members.add? path setting
          match skipFill (rest.length + 1) rest with
          | '\x7d' :: rest => some (tableSetting members, rest)
          | ',' :: rest => tableInside room steps members rest
          | _ => none

end

/-! ## Lines -/

def keyLine (text : List Char) : Option ((List String × Setting) × List Char) := do
  let (path, rest) ← keyPath (text.length + 1) text
  let rest ← mark '=' rest
  let (value, rest) ← value maxDepth (rest.length + 1) (skipLineBlanks rest)
  let rest ← endOfLine? rest
  some ((path, value), rest)

def headerLine (brackets : Nat) (text : List Char) : Option (List String × List Char) := do
  let (path, rest) ← keyPath (text.length + 1) text
  let closing := List.replicate brackets ']'
  if closing.isPrefixOf rest then
    let rest ← endOfLine? (rest.drop brackets)
    some (path, rest)
  else none

/-- The tables of the lines of a text, given the header above them and the tables so far. -/
def lines : (steps : Nat) → (header : List String) → Members → List Char → Option Members
  | 0, _, _, _ => none
  | steps + 1, header, members, text =>
      match endOfLine? text with
      | some [] => some members
      | some rest => lines steps header members rest
      | none =>
          match skipLineBlanks text with
          | '[' :: '[' :: rest => do
              let (path, rest) ← headerLine 2 rest
              let members ← members.openSeries? path
              lines steps path members rest
          | '[' :: rest => do
              let (path, rest) ← headerLine 1 rest
              let members ← members.openTable? path
              lines steps path members rest
          | text => do
              let ((path, setting), rest) ← keyLine text
              let members ← members.changeUnder header (·.add? path setting)
              lines steps header members rest

/-- The keys of a text outside all tables with their values, if it is TOML. -/
def read? (text : List Char) : Option (List (String × Setting)) :=
  (lines (text.length + 2) [] [] text).map fun members =>
    members.map fun (key, node) => (key, node.setting)

end RecordRules.Toml
