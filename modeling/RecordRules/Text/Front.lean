import RecordRules.Text.Digits

/-!
# Fronts of texts

A reader of the front of a text gives what it found and the text behind it.  The marks
and the fields of a fixed number of digits that dates and times are made of.
-/

namespace RecordRules.Text

/-- A reader of the front of a text. -/
abbrev Front (α : Type) := List Char → Option (α × List Char)

def mark (expected : Char) : List Char → Option (List Char)
  | [] => none
  | c :: rest => if c = expected then some rest else none

def exactDigits (count : Nat) : Front Nat := fun text =>
  let digits := text.take count
  if digits.length = count && digits.all isDigit then
    some (natValue digits, text.drop count)
  else none

@[simp] theorem mark_cons (c : Char) (rest : List Char) : mark c (c :: rest) = some rest := by
  simp [mark]

end RecordRules.Text
