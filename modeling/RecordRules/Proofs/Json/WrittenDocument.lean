import RecordRules.Json.Document
import RecordRules.Proofs.Json.ReadBack

/-!
# Written documents are read back

A document that is written without blanks is read back as the document: its texts, truth values
and lists as they were written, and its objects with their members in the order of their keys.
It takes as many levels to read it as lists and objects are inside each other.
-/

namespace RecordRules.Json

theorem readsBack_value_text (list object : Reader Json) (text : String) :
    ReadsBack (value list object) (writeText text) (.text text) where
  solid := (readsBack_text text).solid
  reads gap rest blank := by
    have first : skipSpaces (gap ++ (writeText text ++ rest)) =
        '"' :: (text.toList.flatMap escapeOne ++ '"' :: rest) := by
      simp only [writeText, List.cons_append, List.append_assoc, List.nil_append]
      exact skipSpaces_gap_cons blank rfl _
    rw [value, first]
    change (textAfterQuote _ >>= _) = _
    rw [textAfterQuote_escaped]
    rfl

theorem readsBack_value_bool (list object : Reader Json) (truth : Bool) :
    ReadsBack (value list object) (writeBool truth) (.bool truth) := by
  cases truth with
  | false =>
      refine ⟨⟨'f', _, rfl, rfl, by decide⟩, fun gap rest blank => ?_⟩
      have first : skipSpaces (gap ++ (writeBool false ++ rest)) =
          'f' :: 'a' :: 'l' :: 's' :: 'e' :: rest := skipSpaces_gap_cons blank rfl _
      rw [value, first]
      rfl
  | true =>
      refine ⟨⟨'t', _, rfl, rfl, by decide⟩, fun gap rest blank => ?_⟩
      have first : skipSpaces (gap ++ (writeBool true ++ rest)) =
          't' :: 'r' :: 'u' :: 'e' :: rest := skipSpaces_gap_cons blank rfl _
      rw [value, first]
      rfl

theorem readsBack_nested_text (depth : Nat) (text : String) :
    ReadsBack (nested depth) (writeText text) (.text text) := by
  cases depth <;> exact readsBack_value_text _ _ text

theorem readsBack_nested_bool (depth : Nat) (truth : Bool) :
    ReadsBack (nested depth) (writeBool truth) (.bool truth) := by
  cases depth <;> exact readsBack_value_bool _ _ truth

/-- A list of documents takes one level more than they do. -/
theorem readsBack_nested_list {depth : Nat} {parts : List (List Char)} {items : List Json}
    (beside : List.Forall₂ (ReadsBack (nested depth)) parts items) :
    ReadsBack (nested (depth + 1)) ('[' :: (between [','] parts ++ [']'])) (.list items) where
  solid := ⟨'[', _, rfl, rfl, by decide⟩
  reads gap rest blank := by
    have inside := elements_inside beside isGap_nil isGap_nil isGap_nil isGap_nil rest
    simp only [List.nil_append] at inside
    have first : skipSpaces (gap ++ ('[' :: (between [','] parts ++ [']']) ++ rest)) =
        '[' :: (between [','] parts ++ ']' :: rest) := by
      simp only [List.cons_append, List.append_assoc, List.nil_append]
      exact skipSpaces_gap_cons blank rfl _
    rw [nested, value, first]
    change listInside (nested depth) _ = _
    simp only [listInside, inside, bind, Except.bind]

/-- How a member of an object is read into the members before it. -/
def memberStep (item : Reader Json) (held : List (String × Json)) (key : String) :
    Except Fault (Reader (List (String × Json))) :=
  .ok fun text => do
    let (value, rest) ← item text
    .ok (insertMember key value held, rest)

theorem Gathers.documentMember {item : Reader Json} {held last : List (String × Json)}
    {key : String} {written : List Char} {document : Json} {others : List (List Char)}
    (back : ReadsBack item written document)
    (onward : Gathers (memberStep item) [] (insertMember key document held) others last) :
    Gathers (memberStep item) [] held (compactMember key written :: others) last :=
  .member rfl ⟨back.solid, fun gap rest blank => by
    simp only [back.reads gap rest blank, bind, Except.bind]⟩ onward

theorem Gathers.readsBack_nested_object {depth : Nat} {parts : List (List Char)}
    {members : List (String × Json)}
    (gathers : Gathers (memberStep (nested depth)) [] [] parts members) :
    ReadsBack (nested (depth + 1)) (compactObject parts) (.object members) where
  solid := ⟨'\x7b', _, rfl, rfl, by decide⟩
  reads gap rest blank := by
    have enough : parts.length ≤ (between [','] parts ++ '\x7d' :: rest).length := by
      have counted := length_le_length_between [','] gathers.filled
      rw [List.length_append]
      omega
    have inside := gathers.members_between isGap_nil isGap_nil isGap_nil isGap_nil isGap_nil
      enough rest
    have first : skipSpaces (gap ++ (compactObject parts ++ rest)) =
        '\x7b' :: (between [','] parts ++ '\x7d' :: rest) := by
      simp only [compactObject, List.cons_append, List.append_assoc, List.nil_append]
      exact skipSpaces_gap_cons blank rfl _
    simp only [List.nil_append] at inside
    rw [nested, value, first]
    change objectInside (nested depth) _ = _
    simp only [objectInside]
    change (Json.members (memberStep (nested depth)) _ true [] _ >>= _) = _
    rw [inside]
    rfl

end RecordRules.Json
