import RecordRules.Json.Document
import RecordRules.Settings.Toml.Reader

/-!
# Files of settings

A file of settings is TOML.  If there is none at a path, a file with one more extension
is looked for, which tells its format: TOML once more, or a JSON object.  A mark of byte
order at the front of a file is passed over.
-/

namespace RecordRules

open Text

/-- What is found at a path of settings. -/
inductive Source where
  | absent
  | toml (text : String)
  | json (text : String)
deriving DecidableEq, Repr

namespace Setting

def ofNumber : Json.Number → Setting
  | .whole value =>
      if isWord value then .whole value else .float (Json.Number.whole value).toDouble
  | .float value => .float value

/-- The setting that a JSON value makes; null converts to no field. -/
def ofJson : Json → Setting
  | .null | .list _ => .composite
  | .bool value => .bool value
  | .number value => .float value
  | .text value => .text value
  | .object members => if members.isEmpty then .emptyTable else .composite

/-- A JSON value as a setting.  Integers are kept as they are. -/
def jsonValue : Json.Reader Setting := fun text =>
  match Json.skipSpaces text with
  | [] => .error .endInValue
  | c :: rest =>
      if c = '-' || isDigit c then
        (Json.numberValue (c :: rest)).map fun (number, rest) => (ofNumber number, rest)
      else
        (Json.nested (Json.maxDepth - 1) (c :: rest)).map fun (value, rest) => (ofJson value, rest)

end Setting

namespace Source

def fileName (path : String) : String :=
  String.ofList (path.toList.reverse.takeWhile (· != '/')).reverse

def find (read : String → Option String) (path : String) : Source :=
  match read path with
  -- A file whose name is nothing but the extension is passed over.
  | some text => if fileName path == ".toml" then .absent else .toml text
  | none =>
      match read (path ++ ".toml") with
      | some text => .toml text
      | none =>
          match read (path ++ ".json") with
          | some text => .json text
          | none => .absent

def candidates (path : String) : List String :=
  [path, path ++ ".toml", path ++ ".json"]

/-- The text behind the mark of byte order that a file may start with. -/
def withoutByteOrderMark : List Char → List Char
  | '\ufeff' :: rest => rest
  | text => text

/-- The members of a JSON object as settings; of several with one key the last counts. -/
def jsonSettings? (text : List Char) : Option (List (String × Setting)) :=
  let step (held : List (String × Setting)) (key : String) :
      Except Json.Fault (Json.Reader (List (String × Setting))) :=
    .ok fun text =>
      (Setting.jsonValue text).map fun (setting, rest) =>
        (Json.insertMember key setting held, rest)
  match Json.skipSpaces text with
  | '\x7b' :: rest => (Json.whole (Json.members step (rest.length + 1) true []) rest).toOption
  | _ => none

def settings? : Source → Option (List (String × Setting))
  | .absent => some []
  | .toml text => Toml.read? (withoutByteOrderMark text.toList)
  | .json text => jsonSettings? (withoutByteOrderMark text.toList)

end Source

end RecordRules
