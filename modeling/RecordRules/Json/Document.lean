import RecordRules.Json.Reader
import RecordRules.Text.Search

/-!
# JSON documents

A document is any JSON value.  Its numbers are floating-point numbers, and the members
of its objects are kept in the order of their keys with one value for each key.
-/

namespace RecordRules

/-- A JSON value; the keys of an object are in increasing order. -/
inductive Json where
  | null
  | bool (value : Bool)
  | number (value : Double)
  | text (value : String)
  | list (items : List Json)
  | object (members : List (String × Json))

namespace Json

/-- The members with one more; a key that is there already takes the new value. -/
def insertMember {α : Type} (key : String) (value : α) :
    List (String × α) → List (String × α)
  | [] => [(key, value)]
  | (other, held) :: rest =>
      match Text.order key other with
      | .lt => (key, value) :: (other, held) :: rest
      | .eq => (key, value) :: rest
      | .gt => (other, held) :: insertMember key value rest

def lookup {α : Type} (key : String) (members : List (String × α)) : Option α :=
  (members.find? (·.1 == key)).map (·.2)

def value (list object : Reader Json) : Reader Json := fun text =>
  match skipSpaces text with
  | [] => .error .endInValue
  | c :: rest =>
      if c = 'n' then (word ['u', 'l', 'l'] rest).map (.null, ·)
      else if c = 't' then (word ['r', 'u', 'e'] rest).map (.bool true, ·)
      else if c = 'f' then (word ['a', 'l', 's', 'e'] rest).map (.bool false, ·)
      else if c = '-' || Text.isDigit c then do
        let (value, rest) ← numberValue (c :: rest)
        .ok (.number value.toDouble, rest)
      else if c = '"' then do
        let (value, rest) ← textAfterQuote rest
        .ok (.text value, rest)
      else if c = '[' then list rest
      else if c = '\x7b' then object rest
      else .error .expectedValue

def listInside (item : Reader Json) : Reader Json := fun text => do
  let (items, rest) ← elements item (text.length + 1) true text
  .ok (.list items, rest)

def objectInside (item : Reader Json) : Reader Json := fun text => do
  let step (held : List (String × Json)) (key : String) :
      Except Fault (Reader (List (String × Json))) :=
    .ok fun text => do
      let (value, rest) ← item text
      .ok (insertMember key value held, rest)
  let (held, rest) ← members step (text.length + 1) true [] text
  .ok (.object held, rest)

/-- A value with at most the given number of lists and objects inside each other. -/
def nested : (depth : Nat) → Reader Json
  | 0 => value (fun _ => .error .tooDeep) (fun _ => .error .tooDeep)
  | depth + 1 => value (listInside (nested depth)) (objectInside (nested depth))

def maxDepth : Nat := 127

def ofText (text : String) : Except Fault Json :=
  whole (nested maxDepth) text.toList

end Json

end RecordRules
