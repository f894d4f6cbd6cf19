import RecordRules.Json.Number
import RecordRules.Json.Text

/-!
# The parts of a JSON text

Readers for the punctuation of lists and objects, shared by all values, and the parts
of a text that is passed over.  A loop over elements or members is given the length of
the text as a bound on its steps; every step consumes a character.
-/

namespace RecordRules.Json

/-- The rest of a word whose first character has been read. -/
def word (expected : List Char) (text : List Char) : Except Fault (List Char) :=
  match expected, text with
  | [], rest => .ok rest
  | _ :: _, [] => .error .endInValue
  | e :: expected, c :: rest =>
      if c = e then word expected rest else .error .expectedWord

/-! ## Lists and objects -/

/-- Looks for an element of a list.  The answer is whether there is one, with the text from the
element on, or from behind the closing bracket on. -/
def nextElement (first : Bool) (text : List Char) : Except Fault (Bool × List Char) :=
  match skipSpaces text with
  | [] => .error .endInList
  | c :: rest =>
      if c = ']' then .ok (false, rest)
      else if first then .ok (true, c :: rest)
      else if c = ',' then
        match skipSpaces rest with
        | [] => .error .endInValue
        | d :: rest => if d = ']' then .error .trailingComma else .ok (true, d :: rest)
      else .error .expectedCommaOrBracket

def elements {α : Type} (item : Reader α) : (steps : Nat) → (first : Bool) → Reader (List α)
  | 0, _, _ => .error .endInList
  | steps + 1, first, text => do
      let (present, rest) ← nextElement first text
      if present then
        let (value, rest) ← item rest
        let (values, rest) ← elements item steps false rest
        .ok (value :: values, rest)
      else .ok ([], rest)

/-- The end of a list all of whose places are taken. -/
def endList (text : List Char) : Except Fault (List Char) :=
  match skipSpaces text with
  | [] => .error .endInList
  | c :: rest =>
      if c = ']' then .ok rest
      else if c = ',' then
        match skipSpaces rest with
        | ']' :: _ => .error .trailingComma
        | _ => .error .trailingCharacters
      else .error .trailingCharacters

/-- Looks for a member of an object.  The answer is its key with the text behind it, or nothing
with the text behind the closing brace. -/
def nextKey (first : Bool) (text : List Char) : Except Fault (Option String × List Char) :=
  match skipSpaces text with
  | [] => .error .endInObject
  | c :: rest =>
      if c = '\x7d' then .ok (none, rest)
      else if first then
        if c = '"' then do
          let (key, rest) ← textAfterQuote rest
          .ok (some key, rest)
        else .error .keyMustBeText
      else if c = ',' then
        match skipSpaces rest with
        | [] => .error .endInValue
        | d :: rest =>
            if d = '"' then do
              let (key, rest) ← textAfterQuote rest
              .ok (some key, rest)
            else if d = '\x7d' then .error .trailingComma
            else .error .keyMustBeText
      else .error .expectedCommaOrBrace

def colon (text : List Char) : Except Fault (List Char) :=
  match skipSpaces text with
  | [] => .error .endInObject
  | c :: rest => if c = ':' then .ok rest else .error .expectedColon

/-- The members of an object up to its closing brace.  Each key chooses how the state is
continued from its value, or refuses the member before its colon is read. -/
def members {σ : Type} (step : σ → String → Except Fault (Reader σ)) :
    (steps : Nat) → (first : Bool) → σ → Reader σ
  | 0, _, _, _ => .error .endInObject
  | steps + 1, first, state, text => do
      let (key, rest) ← nextKey first text
      match key with
      | none => .ok (state, rest)
      | some key =>
          let value ← step state key
          let rest ← colon rest
          let (state, rest) ← value rest
          members step steps false state rest

/-! ## Values that are passed over -/

def skipItems (item : List Char → Except Fault (List Char)) :
    (steps : Nat) → (first : Bool) → List Char → Except Fault (List Char)
  | 0, _, _ => .error .endInList
  | steps + 1, first, text =>
      match skipSpaces text with
      | [] => .error .endInList
      | c :: rest =>
          if c = ']' then .ok rest
          else if first then do
            let rest ← item (c :: rest)
            skipItems item steps false rest
          else if c = ',' then do
            let rest ← item rest
            skipItems item steps false rest
          else .error .expectedCommaOrBracket

def skipMember (item : List Char → Except Fault (List Char)) (text : List Char) :
    Except Fault (List Char) :=
  match skipSpaces text with
  | [] => .error .endInObject
  | c :: rest =>
      if c = '"' then do
        let rest ← skipText rest
        let rest ← colon rest
        item rest
      else .error .keyMustBeText

def skipMembers (item : List Char → Except Fault (List Char)) :
    (steps : Nat) → (first : Bool) → List Char → Except Fault (List Char)
  | 0, _, _ => .error .endInObject
  | steps + 1, first, text =>
      match skipSpaces text with
      | [] => .error .endInObject
      | c :: rest =>
          if c = '\x7d' then .ok rest
          else if first then do
            let rest ← skipMember item (c :: rest)
            skipMembers item steps false rest
          else if c = ',' then do
            let rest ← skipMember item rest
            skipMembers item steps false rest
          else .error .expectedCommaOrBrace

def skipWithin : (depth : Nat) → List Char → Except Fault (List Char)
  | 0, _ => .error .endInValue
  | depth + 1, text =>
      match skipSpaces text with
      | [] => .error .endInValue
      | c :: rest =>
          if c = 'n' then word ['u', 'l', 'l'] rest
          else if c = 't' then word ['r', 'u', 'e'] rest
          else if c = 'f' then word ['a', 'l', 's', 'e'] rest
          else if c = '-' || Text.isDigit c then skipNumber (c :: rest)
          else if c = '"' then skipText rest
          else if c = '[' then skipItems (skipWithin depth) (rest.length + 1) true rest
          else if c = '\x7b' then skipMembers (skipWithin depth) (rest.length + 1) true rest
          else .error .expectedValue

/-- The end of a value; the length of the text bounds its depth. -/
def skipValue (text : List Char) : Except Fault (List Char) :=
  skipWithin (text.length + 1) text

/-! ## Values of a given type -/

/-- The fault of a value that is not of the expected type.  If the value cannot even be read,
that is the fault. -/
def wrongType (expected : String) (text : List Char) : Fault :=
  let after (found : Found) : Except Fault (List Char) → Fault
    | .error fault => fault
    | .ok _ => .wrongType found expected
  match text with
  | [] => .expectedValue
  | c :: rest =>
      if c = 'n' then after .null (word ['u', 'l', 'l'] rest)
      else if c = 't' then after (.boolean true) (word ['r', 'u', 'e'] rest)
      else if c = 'f' then after (.boolean false) (word ['a', 'l', 's', 'e'] rest)
      else if c = '-' || Text.isDigit c then
        match numberValue (c :: rest) with
        | .error fault => fault
        | .ok (value, _) => .wrongType value.found expected
      else if c = '"' then
        match textAfterQuote rest with
        | .error fault => fault
        | .ok (value, _) => .wrongType (.text value) expected
      else if c = '[' then .wrongType .sequence expected
      else if c = '\x7b' then .wrongType .map expected
      else .expectedValue

def textValue : Reader String := fun text =>
  match skipSpaces text with
  | [] => .error .endInValue
  | c :: rest =>
      if c = '"' then textAfterQuote rest else .error (wrongType "a string" (c :: rest))

def optionalValue {α : Type} (value : Reader α) : Reader (Option α) := fun text =>
  match skipSpaces text with
  | 'n' :: rest => do
      let rest ← word ['u', 'l', 'l'] rest
      .ok (none, rest)
  | text => do
      let (value, rest) ← value text
      .ok (some value, rest)

def listValue {α : Type} (item : Reader α) : Reader (List α) := fun text =>
  match skipSpaces text with
  | [] => .error .endInValue
  | c :: rest =>
      if c = '[' then elements item (rest.length + 1) true rest
      else .error (wrongType "a sequence" (c :: rest))

/-- A value that a whole text consists of. -/
def whole {α : Type} (value : Reader α) (text : List Char) : Except Fault α := do
  let (value, rest) ← value text
  if (skipSpaces rest).isEmpty then .ok value else .error .trailingCharacters

end RecordRules.Json
