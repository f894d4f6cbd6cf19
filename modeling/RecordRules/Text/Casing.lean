import RecordRules.Text.CasingTable

/-!
# Letter case

The lower case of a text after the full Unicode rules.  Every character is mapped
on its own except the capital sigma, whose lower case depends on the letters around
it.  For ASCII text this is the familiar map of `A` to `Z` onto `a` to `z`.
-/

namespace RecordRules.Text

/-- Membership in increasing, disjoint ranges. -/
def inRanges (n : Nat) : List (Nat × Nat) → Bool
  | [] => false
  | (low, high) :: rest =>
      if n < low then false else if n ≤ high then true else inRanges n rest

def inTable (n : Nat) (table : List (List (Nat × Nat))) : Bool :=
  table.any (inRanges n)

/-- The image of a number under the first run that holds it. -/
def shiftByRuns? (n : Nat) : List (Nat × Nat × Nat × Int) → Option Nat
  | [] => none
  | (first, last, step, offset) :: rest =>
      if first ≤ n && n ≤ last && (n - first) % step == 0 then
        some (Int.toNat (n + offset))
      else shiftByRuns? n rest

def isAsciiUpper (c : Char) : Bool :=
  'A' ≤ c && c ≤ 'Z'

def isAsciiLetter (c : Char) : Bool :=
  isAsciiUpper c || ('a' ≤ c && c ≤ 'z')

def asciiLower (c : Char) : Char :=
  if isAsciiUpper c then Char.ofNat (c.toNat + 32) else c

def isCased (c : Char) : Bool :=
  if c.toNat < 0x80 then isAsciiLetter c
  else inTable c.toNat cased

/-- Characters that the case of a word looks through, such as apostrophes and accents. -/
def isCaseIgnorable (c : Char) : Bool :=
  if c.toNat < 0x80 then
    c.toNat == 0x27 || c == '.' || c == ':' || c == '^' || c.toNat == 0x60
  else
    inTable c.toNat caseIgnorable

/-- The lower case of one character without regard to its neighbours. -/
def lowerOne (c : Char) : List Char :=
  if c.toNat < 0x80 then [asciiLower c]
  else if c.toNat == 0x130 then ['i', Char.ofNat 0x307]
  else
    match lowerRuns.findSome? (shiftByRuns? c.toNat) with
    | some n => [Char.ofNat n]
    | none => [c]

/-- Whether the first character that is not case-ignorable is cased. -/
def nextIsCased (text : List Char) : Bool :=
  match text.dropWhile isCaseIgnorable with
  | [] => false
  | c :: _ => isCased c

def capitalSigma : Char := Char.ofNat 0x3A3

/-- The lower case of the capital sigma: the final form after a cased letter and not before one,
the usual form elsewhere.  The text before is given in reverse. -/
def lowerSigma (before after : List Char) : Char :=
  if nextIsCased before && !nextIsCased after then Char.ofNat 0x3C2 else Char.ofNat 0x3C3

/-- The lower case of a text that follows the given characters, which are in reverse. -/
def lowerAfter (before : List Char) : List Char → List Char
  | [] => []
  | c :: rest =>
      (if c == capitalSigma then [lowerSigma before rest] else lowerOne c)
        ++ lowerAfter (c :: before) rest

def lower (text : List Char) : List Char :=
  lowerAfter [] text

def equalsIgnoringAsciiCase (left right : List Char) : Bool :=
  left.map asciiLower == right.map asciiLower

end RecordRules.Text
