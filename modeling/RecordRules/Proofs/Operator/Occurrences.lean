import RecordRules.Proofs.Operator.Table
import RecordRules.Proofs.Text.Lowering

/-!
# Texts that occur literally

The text operators compare lower cases.  A needle that occurs in a text as it stands is
found there as long as its capital sigmas are lowered in the text as in the needle alone.
At the front and at the end of a text that is exactly when it is found, and a needle
without capital sigmas is found wherever it occurs.  A needle that ends or begins inside a
word with a capital sigma can be missed.
-/

namespace RecordRules

namespace Text

theorem occursIn_iff {needle text : List Char} :
    occursIn needle text = true ↔ needle <:+: text := by
  induction text with
  | nil => simp [occursIn]
  | cons c rest ih =>
      rw [occursIn, Bool.or_eq_true, List.isPrefixOf_iff_prefix, ih, List.infix_cons_iff]

/-- A needle that keeps its lower case between its neighbours stands in the lower case. -/
theorem lower_infix_of_kept {before needle after : List Char}
    (kept : lowerBetween before.reverse needle after = lower needle) :
    lower needle <:+: lower (before ++ (needle ++ after)) := by
  refine ⟨lowerBetween [] before (needle ++ after),
    lowerAfter (needle.reverse ++ before.reverse) after, ?_⟩
  rw [lower_append, lowerAfter_append, kept, List.append_assoc]

/-- The lower case of a needle begins that of a text exactly if the needle keeps it there. -/
theorem lower_prefix_iff (needle after : List Char) :
    lower needle <+: lower (needle ++ after) ↔ lowerBetween [] needle after = lower needle := by
  rw [lower_append]
  constructor
  · rintro ⟨rest, whole⟩
    have same_length : (lower needle).length = (lowerBetween [] needle after).length := by
      rw [lower, lowerAfter_eq_lowerBetween]
      exact length_lowerBetween [] [] [] after needle
    exact (List.append_inj whole same_length).1.symm
  · intro kept
    rw [kept]
    exact List.prefix_append _ _

theorem lower_suffix_iff (before needle : List Char) :
    lower needle <:+ lower (before ++ needle) ↔
      lowerBetween before.reverse needle [] = lower needle := by
  rw [lower_append, lowerAfter_eq_lowerBetween before.reverse]
  constructor
  · rintro ⟨rest, whole⟩
    have same_length : (lower needle).length = (lowerBetween before.reverse needle []).length := by
      rw [lower, lowerAfter_eq_lowerBetween]
      exact length_lowerBetween [] [] before.reverse [] needle
    exact (List.append_inj' whole same_length).2.symm
  · intro kept
    rw [kept]
    exact List.suffix_append _ _

end Text

open Text

def Operator.answer (operator : Operator) (leaf : Leaf) (needle text : List Char) :
    Except RuleError Bool :=
  (operator.build operator.name leaf (some (String.ofList needle))).map
    (·.passes (.text (String.ofList text)))

section Answers

variable {leaf : Leaf} {needle text : List Char}

theorem Placement.answer_eq (isText : leaf.isText = true) (placement : Placement)
    (negated : Bool) :
    (placement.operator negated).answer leaf needle text =
      .ok (placement.holds (lower needle) (lower text) != negated) := by
  rw [Operator.answer, Operator.build_placement]
  simp [Test.ofPlacement, isText, Except.map, Test.passes, Test.findsIn]

/-- What is kept of a needle's lower case decides the answers, for each pair of operators. -/
theorem Placement.answers_eq (isText : leaf.isText = true) (placement : Placement) {found : Bool}
    (decided : placement.holds (lower needle) (lower text) = found) :
    (placement.operator false).answer leaf needle text = .ok found ∧
      (placement.operator true).answer leaf needle text = .ok (!found) := by
  rw [placement.answer_eq isText, placement.answer_eq isText, decided, Bool.bne_false,
    Bool.bne_true]
  exact ⟨rfl, rfl⟩

theorem holds_atStart_append (needle after : List Char) :
    Placement.atStart.holds (lower needle) (lower (needle ++ after)) =
      !endsInsideWord needle after := by
  have kept := lowerBetween_eq_lower_iff [] needle after
  rw [List.reverse_nil, ← lower_prefix_iff, beginsInsideWord_nil_left] at kept
  rw [Placement.holds, Bool.eq_iff_iff, List.isPrefixOf_iff_prefix, kept, Bool.not_eq_true']
  exact and_iff_left rfl

theorem holds_atEnd_append (before needle : List Char) :
    Placement.atEnd.holds (lower needle) (lower (before ++ needle)) =
      !beginsInsideWord before needle [] := by
  have kept := lowerBetween_eq_lower_iff before needle []
  rw [← lower_suffix_iff, endsInsideWord_nil_right] at kept
  rw [Placement.holds, Bool.eq_iff_iff, List.isSuffixOf_iff_suffix, kept, Bool.not_eq_true']
  exact and_iff_right rfl

theorem holds_anywhere_append {before needle after : List Char}
    (ends : endsInsideWord needle after = false)
    (begins : beginsInsideWord before needle after = false) :
    Placement.anywhere.holds (lower needle) (lower (before ++ (needle ++ after))) = true :=
  occursIn_iff.mpr (lower_infix_of_kept ((lowerBetween_eq_lower_iff _ _ _).mpr ⟨ends, begins⟩))

/-- A needle that occurs in a text is found there, and its absence is denied, unless it begins or
ends with a capital sigma inside a word. -/
theorem occurrences_found_unless_inside_word (isText : leaf.isText = true)
    (before needle after : List Char) :
    (endsInsideWord needle after = false → beginsInsideWord before needle after = false →
      Operator.contains.answer leaf needle (before ++ (needle ++ after)) = .ok true ∧
        Operator.doesNotContain.answer leaf needle (before ++ (needle ++ after)) = .ok false) ∧
    (Operator.startsWith.answer leaf needle (needle ++ after) =
        .ok (!endsInsideWord needle after) ∧
      Operator.doesNotStartWith.answer leaf needle (needle ++ after) =
        .ok (endsInsideWord needle after)) ∧
    (Operator.endsWith.answer leaf needle (before ++ needle) =
        .ok (!beginsInsideWord before needle []) ∧
      Operator.doesNotEndWith.answer leaf needle (before ++ needle) =
        .ok (beginsInsideWord before needle [])) ∧
    (capitalSigma ∉ needle →
      endsInsideWord needle after = false ∧ beginsInsideWord before needle after = false) := by
  refine ⟨?_, ?_, ?_, ?_⟩
  · intro ends begins
    exact Placement.anywhere.answers_eq isText (holds_anywhere_append ends begins)
  · have answers := Placement.atStart.answers_eq isText (holds_atStart_append needle after)
    rwa [Bool.not_not] at answers
  · have answers := Placement.atEnd.answers_eq isText (holds_atEnd_append before needle)
    rwa [Bool.not_not] at answers
  · intro plain
    exact inside_word_eq_false_of_not_mem plain before after

end Answers

/-- The end of a name is found at its end and anywhere, its front not at the front. -/
theorem occurrences_found_unless_inside_word_of_name :
    let leaf : Leaf :=
      { path := "Name", owner := "Hero", type := .scalar .text, typeName := "String"
        nullable := false, nullableParent := false, slots := [0] }
    let front := "ΟΔΥΣ".toList
    let back := "ΣΕΥΣ".toList
    leaf.isText = true ∧
      endsInsideWord back [] = false ∧ beginsInsideWord front back [] = false ∧
      Operator.contains.answer leaf back "ΟΔΥΣΣΕΥΣ".toList = .ok true ∧
      Operator.endsWith.answer leaf back "ΟΔΥΣΣΕΥΣ".toList = .ok true ∧
      endsInsideWord front back = true ∧
      Operator.startsWith.answer leaf front "ΟΔΥΣΣΕΥΣ".toList = .ok false := by
  intro leaf front back
  have isText : leaf.isText = true := rfl
  have ends : endsInsideWord back [] = false := by decide
  have begins : beginsInsideWord front back [] = false := by decide
  have inside : endsInsideWord front back = true := by decide
  obtain ⟨found, -, ⟨atEnd, -⟩, -⟩ := occurrences_found_unless_inside_word isText front back []
  obtain ⟨-, ⟨atStart, -⟩, -⟩ := occurrences_found_unless_inside_word isText [] front back
  rw [begins] at atEnd
  rw [inside] at atStart
  exact ⟨isText, ends, begins, (found ends begins).1, atEnd, inside, atStart⟩

/-- A needle that ends, or begins, with a capital sigma inside a word is missed. -/
theorem occurrences_missed_inside_word :
    let leaf : Leaf :=
      { path := "Name", owner := "Hero", type := .scalar .text, typeName := "String"
        nullable := false, nullableParent := false, slots := [0] }
    "ΑΣ".toList <+: "ΑΣΑ".toList ∧
      Operator.contains.answer leaf "ΑΣ".toList "ΑΣΑ".toList = .ok false ∧
      Operator.doesNotContain.answer leaf "ΑΣ".toList "ΑΣΑ".toList = .ok true ∧
      Operator.startsWith.answer leaf "ΑΣ".toList "ΑΣΑ".toList = .ok false ∧
      Operator.doesNotStartWith.answer leaf "ΑΣ".toList "ΑΣΑ".toList = .ok true ∧
    "Σ".toList <:+ "ΑΣ".toList ∧
      Operator.endsWith.answer leaf "Σ".toList "ΑΣ".toList = .ok false ∧
      Operator.doesNotEndWith.answer leaf "Σ".toList "ΑΣ".toList = .ok true := by
  intro leaf
  have isText : leaf.isText = true := rfl
  have anywhere := Placement.anywhere.answers_eq isText
    (show Placement.anywhere.holds (lower "ΑΣ".toList) (lower "ΑΣΑ".toList) = false by decide)
  have atStart := Placement.atStart.answers_eq isText
    (show Placement.atStart.holds (lower "ΑΣ".toList) (lower "ΑΣΑ".toList) = false by decide)
  have atEnd := Placement.atEnd.answers_eq isText
    (show Placement.atEnd.holds (lower "Σ".toList) (lower "ΑΣ".toList) = false by decide)
  exact ⟨by decide, anywhere.1, anywhere.2, atStart.1, atStart.2, by decide, atEnd.1, atEnd.2⟩

end RecordRules
