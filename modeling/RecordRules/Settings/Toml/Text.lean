import RecordRules.Text.Casing
import RecordRules.Text.Front

/-!
# Lines and texts in TOML

The blanks, comments and breaks of lines, and the texts in quotes.  A text stands in
double quotes with escapes or in single quotes without them, on one line behind one
quote or on several lines behind three.
-/

namespace RecordRules.Toml

open Text

/-! ## Lines -/

def isLineBlank (c : Char) : Bool :=
  c == ' ' || c == '\t'

def skipLineBlanks (text : List Char) : List Char :=
  text.dropWhile isLineBlank

/-- The characters that comments and texts may hold as they are. -/
def isPlain (c : Char) : Bool :=
  c == '\t' || (0x20 ≤ c.toNat && c.toNat != 0x7F)

def lineBreak? : List Char → Option (List Char)
  | '\n' :: rest => some rest
  | '\r' :: '\n' :: rest => some rest
  | _ => none

def skipComment : List Char → List Char
  | '#' :: rest => rest.dropWhile isPlain
  | text => text

/-- The end of a line: blanks, perhaps a comment, and a line break or the end of the text. -/
def endOfLine? (text : List Char) : Option (List Char) :=
  match skipComment (skipLineBlanks text) with
  | [] => some []
  | text => lineBreak? text

/-- Line breaks, blanks and comments between the parts of a list or an inline table. -/
def skipFill : (steps : Nat) → List Char → List Char
  | 0, text => text
  | steps + 1, text =>
      let inner := skipComment (skipLineBlanks text)
      match lineBreak? inner with
      | some rest => skipFill steps rest
      | none => inner

/-! ## Texts in quotes -/

def numberedChar? (digits : List Char) : Option Char :=
  match hexNumber? digits with
  | some n => if n.isValidChar then some (Char.ofNat n) else none
  | none => none

def numberLength? (c : Char) : Option Nat :=
  if c = 'x' then some 2
  else if c = 'u' then some 4
  else if c = 'U' then some 8
  else none

def namedChar? (c : Char) : Option Char :=
  if c = '"' || c = '\\' then some c
  else if c = 'b' then some (Char.ofNat 0x08)
  else if c = 't' then some '\t'
  else if c = 'n' then some '\n'
  else if c = 'f' then some (Char.ofNat 0x0C)
  else if c = 'r' then some '\r'
  else if c = 'e' then some (Char.ofNat 0x1B)
  else none

def escape : Front Char
  | [] => none
  | c :: rest =>
      match numberLength? c with
      | none => (namedChar? c).map (·, rest)
      | some length =>
          let digits := rest.take length
          if digits.length = length then (numberedChar? digits).map (·, rest.drop length) else none

def singleQuote : Char := Char.ofNat 0x27

/-- The ways to write a text in quotes. -/
structure Quotes where
  /-- Whether the quotes are double and a backslash starts an escape. -/
  escapes : Bool
  /-- Whether three quotes enclose a text of several lines. -/
  several : Bool
deriving DecidableEq, Repr

namespace Quotes

def symbol (quotes : Quotes) : Char :=
  if quotes.escapes then '"' else singleQuote

/-- The end of a text: one quote, or three of which up to two more in front belong to the text.
The answer is that part of the text and what follows the end. -/
def close? (quotes : Quotes) (text : List Char) : Option (List Char × List Char) :=
  let length := (text.takeWhile (· == quotes.symbol)).length
  if quotes.several then
    let kept := min (length - 3) 2
    if length < 3 then none else some (text.take kept, text.drop (kept + 3))
  else if length = 0 then none
  else some ([], text.drop 1)

/-- Whether a character with the given text behind it stands for itself. -/
def keeps (quotes : Quotes) (c : Char) (rest : List Char) : Bool :=
  isPlain c || (quotes.several && (c == '\n' || (c == '\r' && rest.head? == some '\n')))

def skipBreaks : List Char → List Char
  | '\r' :: '\n' :: rest => skipBreaks rest
  | '\n' :: rest => skipBreaks rest
  | c :: rest => if isLineBlank c then skipBreaks rest else c :: rest
  | [] => []

/-- A backslash at the end of a line joins it with the next text; from behind the backslash. -/
def joined? (quotes : Quotes) (text : List Char) : Option (List Char) :=
  if quotes.several then (lineBreak? (skipLineBlanks text)).map skipBreaks else none

/-- A text up to its closing quotes. -/
def inside (quotes : Quotes) : (steps : Nat) → Front (List Char)
  | 0, _ => none
  | steps + 1, text =>
      match quotes.close? text, text with
      | some found, _ => some found
      | none, [] => none
      | none, c :: rest =>
          if quotes.escapes && c == '\\' then
            match quotes.joined? rest with
            | some rest => inside quotes steps rest
            | none => do
                let (c, rest) ← escape rest
                let (text, rest) ← inside quotes steps rest
                some (c :: text, rest)
          else if quotes.keeps c rest then do
            let (text, rest) ← inside quotes steps rest
            some (c :: text, rest)
          else none

end Quotes

def lineText : Front String
  | [] => none
  | c :: rest =>
      if c = '"' || c = singleQuote then
        (Quotes.inside ⟨c == '"', false⟩ (rest.length + 1) rest).map fun (text, rest) =>
          (String.ofList text, rest)
      else none

def quotedText : Front String
  | a :: b :: c :: rest =>
      if a = b && b = c && (a = '"' || a = singleQuote) then
        let first := (lineBreak? rest).getD rest
        (Quotes.inside ⟨a == '"', true⟩ (first.length + 1) first).map fun (text, rest) =>
          (String.ofList text, rest)
      else lineText (a :: b :: c :: rest)
  | text => lineText text

end RecordRules.Toml
