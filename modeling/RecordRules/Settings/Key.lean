import RecordRules.Settings.Setting
import RecordRules.Settings.Toml.Reader

/-!
# Keys of settings

A key names a field, or a part inside a field: behind the field's name stand names behind
points and places in brackets.  A key that is not of this form names a field as a whole.
-/

namespace RecordRules.Settings.Key

open Text

/-- The sign, the digits and the closing bracket of a place, from behind its opening bracket. -/
def place? (text : List Char) : Option (List Char) :=
  let (sign, rest) := match Toml.skipLineBlanks text with
    | '-' :: rest => (['-'], rest)
    | rest => ([], rest)
  let digits := rest.takeWhile isDigit
  match Setting.whole? (sign ++ digits) with
  | none => none
  | some _ => mark ']' (Toml.skipLineBlanks (rest.drop digits.length))

/-- Whether a text consists of names behind points and places in brackets. -/
def isInside : (steps : Nat) → List Char → Bool
  | 0, _ => false
  | _ + 1, [] => true
  | steps + 1, '.' :: rest =>
      let name := rest.takeWhile Toml.isKeyChar
      !name.isEmpty && isInside steps (rest.drop name.length)
  | steps + 1, '[' :: rest =>
      match place? rest with
      | some rest => isInside steps rest
      | none => false
  | _ + 1, _ => false

/-- The field that a key names, and whether it names a part inside the field. -/
def parts (key : String) : String × Bool :=
  let field := key.toList.takeWhile Toml.isKeyChar
  let rest := key.toList.drop field.length
  if rest.isEmpty || field.isEmpty || !isInside (rest.length + 1) rest then (key, false)
  else (String.ofList field, true)

end RecordRules.Settings.Key
