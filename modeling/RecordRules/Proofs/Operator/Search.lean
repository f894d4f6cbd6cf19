import RecordRules.Proofs.Operator.Occurrences
import RecordRules.Proofs.Text.AsciiCase

/-!
# The laws of searches for texts

Of the six operators that look for a text, three deny what the other three say.  A text
that begins or ends with a needle holds it somewhere, and the case of ASCII letters makes no
difference, neither in the needle nor in the text.  Where both are ASCII, a search finds
exactly the parts of the text that are the needle up to the case of letters.
-/

namespace RecordRules

open Text

/-- Values that are the same up to the case of ASCII letters in texts. -/
def Value.Recased (value twin : Value) : Prop :=
  value = twin ∨
    ∃ text same, value = .text text ∧ twin = .text same ∧ Text.Recased text.toList same.toList

theorem Value.Recased.findsIn_eq {value twin : Value} (recased : value.Recased twin)
    (placement : Placement) (needle : String) :
    Test.findsIn placement needle value = Test.findsIn placement needle twin := by
  rcases recased with rfl | ⟨text, same, rfl, rfl, recased⟩
  · rfl
  · simp only [Test.findsIn, recased.lower_eq]

theorem Placement.holds_anywhere {placement : Placement} {needle text : List Char}
    (holds : placement.holds needle text = true) : anywhere.holds needle text = true := by
  apply occursIn_iff.mpr
  cases placement with
  | anywhere => exact occursIn_iff.mp holds
  | atStart => exact (List.isPrefixOf_iff_prefix.mp holds).isInfix
  | atEnd => exact (List.isSuffixOf_iff_suffix.mp holds).isInfix

theorem Test.findsIn_anywhere {placement : Placement} {needle : String} {value : Value}
    (finds : findsIn placement needle value = true) : findsIn .anywhere needle value = true := by
  cases value with
  | text text => exact Placement.holds_anywhere finds
  | _ => cases finds

/-- The part of a text at a place that is as long as a needle; anywhere, every part. -/
def Placement.IsPart : Placement → (needle text part : List Char) → Prop
  | .anywhere, _, text, part => part <:+: text
  | .atStart, needle, text, part => part = text.take needle.length
  | .atEnd, needle, text, part => part = text.drop (text.length - needle.length)

/-- In ASCII texts a needle is found where a part is the needle up to the case of letters. -/
theorem Placement.holds_lower_iff {needle text : List Char} (asciiNeedle : IsAscii needle)
    (asciiText : IsAscii text) (placement : Placement) :
    placement.holds (lower needle) (lower text) = true ↔
      ∃ part, placement.IsPart needle text part ∧ Text.Recased needle part := by
  cases placement with
  | anywhere => exact occursIn_iff.trans (lower_infix_iff_recased asciiNeedle asciiText)
  | atStart =>
      rw [holds, List.isPrefixOf_iff_prefix, lower_prefix_iff_recased asciiNeedle asciiText]
      simp only [IsPart, exists_eq_left]
  | atEnd =>
      rw [holds, List.isSuffixOf_iff_suffix, lower_suffix_iff_recased asciiNeedle asciiText]
      simp only [IsPart, exists_eq_left]

def Leaf.search (leaf : Leaf) (placement : Placement) (negated : Bool) (needle : String)
    (value : Value) : Except RuleError Bool :=
  let operator := placement.operator negated
  (operator.build operator.name leaf (some needle)).map (·.passes value)

theorem Leaf.search_eq {leaf : Leaf} (isText : leaf.isText = true) (placement : Placement)
    (negated : Bool) (needle : String) (value : Value) :
    leaf.search placement negated needle value =
      .ok (Test.findsIn placement (String.ofList (lower needle.toList)) value != negated) := by
  simp only [search, Operator.build_placement]
  simp [Test.ofPlacement, isText, Except.map, Test.passes]

/-- Each value passes either an operator of texts or its denial.  Changing the case of ASCII
letters changes no answer, and in ASCII texts a needle is found exactly where a part is the
needle up to case. -/
theorem Leaf.searches_lawful {leaf : Leaf} (isText : leaf.isText = true) (needle : String) :
    (∀ placement : Placement, ∀ usedName : String, ∃ test denial : Test,
      (placement.operator false).build usedName leaf (some needle) = .ok test ∧
      (placement.operator true).build usedName leaf (some needle) = .ok denial ∧
      ∀ value, denial.passes value = !test.passes value) ∧
    (∀ value, leaf.search .atStart false needle value = .ok true ∨
        leaf.search .atEnd false needle value = .ok true →
      leaf.search .anywhere false needle value = .ok true) ∧
    (∀ (same : String) (value twin : Value), Text.Recased needle.toList same.toList →
      value.Recased twin → ∀ placement negated,
      leaf.search placement negated needle value = leaf.search placement negated same twin) ∧
    ∀ text : String, IsAscii needle.toList → IsAscii text.toList → ∀ placement,
      ∃ found, leaf.search placement false needle (.text text) = .ok found ∧
        (found = true ↔ ∃ part, placement.IsPart needle.toList text.toList part ∧
          Text.Recased needle.toList part) := by
  refine ⟨?_, ?_, ?_, ?_⟩
  · intro placement usedName
    refine ⟨.placed placement (String.ofList (lower needle.toList)) false,
      .placed placement (String.ofList (lower needle.toList)) true, ?_, ?_, ?_⟩
    · simp [Operator.build_placement, Test.ofPlacement, isText]
    · simp [Operator.build_placement, Test.ofPlacement, isText]
    · intro value
      simp [Test.passes]
  · intro value found
    have decided : ∀ placement : Placement, leaf.search placement false needle value =
        .ok (Test.findsIn placement (String.ofList (lower needle.toList)) value) := by
      intro placement
      rw [search_eq isText, Bool.bne_false]
    rw [decided, decided] at found
    rw [decided]
    rcases found with atStart | atEnd
    · rw [Test.findsIn_anywhere (Except.ok.inj atStart)]
    · rw [Test.findsIn_anywhere (Except.ok.inj atEnd)]
  · intro same value twin recasedNeedle recasedValue placement negated
    rw [search_eq isText, search_eq isText, recasedNeedle.lower_eq, recasedValue.findsIn_eq]
  · intro text asciiNeedle asciiText placement
    refine ⟨_, search_eq isText placement false needle (.text text), ?_⟩
    rw [Bool.bne_false, ← placement.holds_lower_iff asciiNeedle asciiText]
    simp [Test.findsIn]

/-- A capital sigma behind recased letters keeps its form, and a name is found in capitals. -/
theorem Leaf.searches_lawful_of_capitals :
    let leaf : Leaf :=
      { path := "Name", owner := "Hero", type := .scalar .text, typeName := "String"
        nullable := false, nullableParent := false, slots := [0] }
    leaf.isText = true ∧
      Text.Recased "aΣ".toList "AΣ".toList ∧
      leaf.search .atEnd true "aΣ" (.text "xAΣ") = leaf.search .atEnd true "AΣ" (.text "XaΣ") ∧
      Text.Recased "Steve".toList ("STEVEN".toList.take 5) ∧
      leaf.search .atStart false "Steve" (.text "STEVEN") = .ok true ∧
      leaf.search .anywhere false "Steve" (.text "STEVEN") = .ok true := by
  intro leaf
  have isText : leaf.isText = true := rfl
  have letters : Text.Recased "aΣ".toList "AΣ".toList :=
    .cons (.inr (.inr ⟨by decide, by decide⟩)) (.cons (.inl rfl) .nil)
  have texts : Text.Recased "xAΣ".toList "XaΣ".toList :=
    .cons (.inr (.inr ⟨by decide, by decide⟩))
      (.cons (.inr (.inl ⟨by decide, by decide⟩)) (.cons (.inl rfl) .nil))
  have front : Text.Recased "Steve".toList ("STEVEN".toList.take 5) :=
    recased_iff.mpr (by decide)
  have asciiNeedle : IsAscii "Steve".toList := by decide
  have asciiText : IsAscii "STEVEN".toList := by decide
  obtain ⟨-, -, recases, -⟩ := searches_lawful isText "aΣ"
  obtain ⟨-, implies, -, finds⟩ := searches_lawful isText "Steve"
  obtain ⟨found, answered, decides⟩ := finds "STEVEN" asciiNeedle asciiText .atStart
  obtain rfl : found = true := decides.mpr ⟨_, rfl, front⟩
  refine ⟨isText, letters, ?_, front, answered, implies _ (.inl answered)⟩
  exact recases "AΣ" _ _ letters (.inr ⟨"xAΣ", "XaΣ", rfl, rfl, texts⟩) .atEnd true

end RecordRules
