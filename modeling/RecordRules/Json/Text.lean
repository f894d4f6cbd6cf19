import RecordRules.Json.Fault

/-!
# Texts inside a JSON text

Reading a text from behind its opening quote, with the escapes of JSON; passing over
such a text; and writing one.  A character beyond `U+FFFF` may be escaped as a pair of
surrogates, and no surrogate may stand alone.
-/

namespace RecordRules.Json

open RecordRules.Text

def badHexEscape (text : List Char) : Fault :=
  if (String.ofList (text.take 4)).utf8ByteSize < 4 then .endInText else .invalidEscape

def hexUnit? (a b c d : Char) : Option Nat :=
  hexNumber? [a, b, c, d]

/-- The characters that may stand behind a backslash on their own, with their meaning. -/
def simpleEscape? (c : Char) : Option Char :=
  if c = '"' || c = '\\' || c = '/' then some c
  else if c = 'b' then some (Char.ofNat 8)
  else if c = 'f' then some (Char.ofNat 12)
  else if c = 'n' then some '\n'
  else if c = 'r' then some '\r'
  else if c = 't' then some '\t'
  else none

def isLeading (unit : Nat) : Bool :=
  0xD800 ≤ unit && unit ≤ 0xDBFF

def isTrailing (unit : Nat) : Bool :=
  0xDC00 ≤ unit && unit ≤ 0xDFFF

def pairedChar (leading trailing : Nat) : Char :=
  Char.ofNat ((leading - 0xD800) * 0x400 + (trailing - 0xDC00) + 0x10000)

def consText (c : Char) (read : Except Fault (List Char × List Char)) :
    Except Fault (List Char × List Char) :=
  read.map fun (text, rest) => (c :: text, rest)

/-- The characters up to the closing quote, and what follows it. -/
def textBody : Reader (List Char)
  | [] => .error .endInText
  | '"' :: rest => .ok ([], rest)
  | '\\' :: 'u' :: a :: b :: c :: d :: rest =>
      match hexUnit? a b c d with
      | none => .error (badHexEscape (a :: b :: c :: d :: rest))
      | some unit =>
          if isTrailing unit then .error .loneSurrogate
          else if isLeading unit then
            match rest with
            | '\\' :: 'u' :: e :: f :: g :: h :: rest =>
                match hexUnit? e f g h with
                | none => .error (badHexEscape (e :: f :: g :: h :: rest))
                | some second =>
                    if isTrailing second then consText (pairedChar unit second) (textBody rest)
                    else .error .loneSurrogate
            | '\\' :: 'u' :: rest => .error (badHexEscape rest)
            | '\\' :: [] => .error .endInText
            | [] => .error .endInText
            | _ => .error .endInHexEscape
          else consText (Char.ofNat unit) (textBody rest)
  | '\\' :: 'u' :: rest => .error (badHexEscape rest)
  | '\\' :: c :: rest =>
      match simpleEscape? c with
      | some meaning => consText meaning (textBody rest)
      | none => .error .invalidEscape
  | '\\' :: [] => .error .endInText
  | c :: rest =>
      if c.toNat < 0x20 then .error .controlCharacter else consText c (textBody rest)

def textAfterQuote : Reader String := fun text =>
  (textBody text).map fun (body, rest) => (String.ofList body, rest)

/-- The end of a text from behind its opening quote; surrogates need no partner. -/
def skipText : List Char → Except Fault (List Char)
  | [] => .error .endInText
  | '"' :: rest => .ok rest
  | '\\' :: 'u' :: a :: b :: c :: d :: rest =>
      match hexUnit? a b c d with
      | none => .error (badHexEscape (a :: b :: c :: d :: rest))
      | some _ => skipText rest
  | '\\' :: 'u' :: rest => .error (badHexEscape rest)
  | '\\' :: c :: rest =>
      match simpleEscape? c with
      | some _ => skipText rest
      | none => .error .invalidEscape
  | '\\' :: [] => .error .endInText
  | c :: rest => if c.toNat < 0x20 then .error .controlCharacter else skipText rest

/-! ## Writing -/

/-- One character of a written text: quotes, backslashes and controls are escaped. -/
def escapeOne (c : Char) : List Char :=
  if c = '"' then ['\\', '"']
  else if c = '\\' then ['\\', '\\']
  else if c.toNat = 8 then ['\\', 'b']
  else if c.toNat = 12 then ['\\', 'f']
  else if c = '\n' then ['\\', 'n']
  else if c = '\r' then ['\\', 'r']
  else if c = '\t' then ['\\', 't']
  else if c.toNat < 0x20 then '\\' :: 'u' :: padZeros 4 (hexDigits c.toNat)
  else [c]

def writeText (text : String) : List Char :=
  '"' :: (text.toList.flatMap escapeOne ++ ['"'])

end RecordRules.Json
