/-!
# Texts inside texts

Whether a text stands at the start, at the end or anywhere inside another, and the
order of texts by code points.
-/

namespace RecordRules.Text

def occursIn (needle : List Char) : List Char → Bool
  | [] => needle.isEmpty
  | c :: rest => needle.isPrefixOf (c :: rest) || occursIn needle rest

/-- The order of two strings by code points. -/
def order (left right : String) : Ordering :=
  compare left.toList right.toList

def notAfter (left right : String) : Bool :=
  order left right != .gt

end RecordRules.Text
