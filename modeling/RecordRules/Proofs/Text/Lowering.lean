import Mathlib.Data.List.Basic
import RecordRules.Text.Casing
import RecordRules.Text.Search

/-!
# Lower case inside a longer text

The lower case of a part of a text is the lower case of the part alone, up to the capital
sigmas of the part.  A capital sigma looks for letters on both sides and takes its final
form at the end of a word.  So it comes out differently only in two places: where it ends
the part, in a word that goes on behind, and where it begins the part and ends a word that
began before.
-/

namespace RecordRules.Text

/-- The lower case of a text that stands between others, of which the one before is in reverse. -/
def lowerBetween (before : List Char) : (text after : List Char) → List Char
  | [], _ => []
  | c :: rest, after =>
      (if c == capitalSigma then [lowerSigma before (rest ++ after)] else lowerOne c)
        ++ lowerBetween (c :: before) rest after

/-- Each part of a text is lowered between its neighbours. -/
theorem lowerAfter_append (before text after : List Char) :
    lowerAfter before (text ++ after) =
      lowerBetween before text after ++ lowerAfter (text.reverse ++ before) after := by
  induction text generalizing before with
  | nil => rfl
  | cons c rest ih =>
      rw [List.cons_append, lowerAfter, lowerBetween, ih, List.append_assoc, List.reverse_cons,
        List.append_assoc, List.singleton_append]

theorem lower_append (text after : List Char) :
    lower (text ++ after) = lowerBetween [] text after ++ lowerAfter text.reverse after := by
  rw [lower, lowerAfter_append, List.append_nil]

theorem lowerAfter_eq_lowerBetween (before text : List Char) :
    lowerAfter before text = lowerBetween before text [] := by
  have whole := lowerAfter_append before text []
  rwa [List.append_nil, lowerAfter, List.append_nil] at whole

theorem length_lowerBetween (before after before' after' text : List Char) :
    (lowerBetween before text after).length = (lowerBetween before' text after').length := by
  induction text generalizing before before' with
  | nil => rfl
  | cons c rest ih =>
      rw [lowerBetween, lowerBetween, List.length_append, List.length_append,
        ih (c :: before) (c :: before')]
      split <;> rfl

/-- A text comes out the same between two pairs of neighbours if all its capital sigmas do. -/
theorem lowerBetween_eq_iff (before after before' after' text : List Char) :
    lowerBetween before text after = lowerBetween before' text after' ↔
      ∀ left right, text = left ++ capitalSigma :: right →
        lowerSigma (left.reverse ++ before) (right ++ after) =
          lowerSigma (left.reverse ++ before') (right ++ after') := by
  induction text generalizing before before' with
  | nil => simp [lowerBetween]
  | cons c rest ih =>
      have tails := ih (c :: before) (c :: before')
      rw [lowerBetween, lowerBetween]
      constructor
      · intro same left right split_eq
        have heads_length : (if c == capitalSigma then [lowerSigma before (rest ++ after)]
            else lowerOne c).length =
              (if c == capitalSigma then [lowerSigma before' (rest ++ after')]
                else lowerOne c).length := by
          split <;> rfl
        obtain ⟨heads, rests⟩ := List.append_inj same heads_length
        rcases List.cons_eq_append_iff.mp split_eq with ⟨rfl, first⟩ | ⟨inner, rfl, later⟩
        · obtain ⟨rfl, rfl⟩ := List.cons.inj first
          simpa using heads
        · simpa using tails.mp rests inner right later
      · intro sigmas
        have rests := tails.mpr fun left right later => by
          simpa using sigmas (c :: left) right (by rw [later, List.cons_append])
        rw [rests]
        congr 1
        split
        · next isSigma =>
            obtain rfl : c = capitalSigma := eq_of_beq isSigma
            simpa using sigmas [] rest rfl
        · rfl

/-! ## What a capital sigma sees -/

theorem nextIsCased_append (text more : List Char) :
    nextIsCased (text ++ more) =
      if text.all isCaseIgnorable then nextIsCased more else nextIsCased text := by
  induction text with
  | nil => rfl
  | cons c rest ih =>
      cases ignorable : isCaseIgnorable c with
      | true => simpa [nextIsCased, ignorable] using ih
      | false => simp [nextIsCased, ignorable]

theorem nextIsCased_of_all_ignorable {text : List Char}
    (ignorable : text.all isCaseIgnorable = true) : nextIsCased text = false := by
  have whole := nextIsCased_append text []
  rwa [ignorable, if_pos rfl, List.append_nil] at whole

theorem lowerSigma_eq_iff (before after before' after' : List Char) :
    lowerSigma before after = lowerSigma before' after' ↔
      (nextIsCased before && !nextIsCased after) =
        (nextIsCased before' && !nextIsCased after') := by
  unfold lowerSigma
  cases nextIsCased before && !nextIsCased after <;>
    cases nextIsCased before' && !nextIsCased after' <;> decide

/-- A capital sigma comes out differently in two cases: it ends a word that goes on behind the
text, or it ends a word that began before the text. -/
theorem lowerSigma_append_eq_iff (left right before after : List Char) :
    lowerSigma (left ++ before) (right ++ after) = lowerSigma left right ↔
      ¬ (nextIsCased left = true ∧ right.all isCaseIgnorable = true ∧
          nextIsCased after = true) ∧
      ¬ (left.all isCaseIgnorable = true ∧ nextIsCased before = true ∧
          nextIsCased (right ++ after) = false) := by
  rw [lowerSigma_eq_iff, nextIsCased_append left, nextIsCased_append right]
  cases leftIgnored : left.all isCaseIgnorable with
  | true =>
      rw [nextIsCased_of_all_ignorable leftIgnored]
      cases right.all isCaseIgnorable <;> simp
  | false =>
      cases rightIgnored : right.all isCaseIgnorable with
      | true =>
          rw [nextIsCased_of_all_ignorable rightIgnored]
          simp
      | false => simp

/-! ## Parts that begin or end inside a word -/

theorem isCaseIgnorable_capitalSigma : isCaseIgnorable capitalSigma = false := by decide

theorem dropWhile_ignorable_eq_iff {text later : List Char} :
    text.dropWhile isCaseIgnorable = capitalSigma :: later ↔
      ∃ ignored, text = ignored ++ capitalSigma :: later ∧
        ignored.all isCaseIgnorable = true := by
  constructor
  · intro dropped
    refine ⟨text.takeWhile isCaseIgnorable, ?_, List.all_takeWhile⟩
    rw [← dropped, List.takeWhile_append_dropWhile]
  · rintro ⟨ignored, rfl, ignorable⟩
    rw [List.dropWhile_append_of_pos (List.all_eq_true.mp ignorable),
      List.dropWhile_cons_of_neg (by simp [isCaseIgnorable_capitalSigma])]

/-- Whether a part ends with a capital sigma inside a word, which goes on behind the part. -/
def endsInsideWord (part after : List Char) : Bool :=
  match part.reverse.dropWhile isCaseIgnorable with
  | [] => false
  | c :: earlier => c == capitalSigma && nextIsCased earlier && nextIsCased after

/-- Whether a part begins with a capital sigma at the end of a word, which began before the part. -/
def beginsInsideWord (before part after : List Char) : Bool :=
  match part.dropWhile isCaseIgnorable with
  | [] => false
  | c :: later => c == capitalSigma && nextIsCased before.reverse && !nextIsCased (later ++ after)

theorem endsInsideWord_iff {part after : List Char} :
    endsInsideWord part after = true ↔
      ∃ left right, part = left ++ capitalSigma :: right ∧ nextIsCased left.reverse = true ∧
        right.all isCaseIgnorable = true ∧ nextIsCased after = true := by
  constructor
  · intro ends
    unfold endsInsideWord at ends
    split at ends
    · cases ends
    · next c earlier dropped =>
        simp only [Bool.and_eq_true, beq_iff_eq] at ends
        obtain ⟨⟨rfl, cased⟩, more⟩ := ends
        obtain ⟨ignored, whole, ignorable⟩ := dropWhile_ignorable_eq_iff.mp dropped
        refine ⟨earlier.reverse, ignored.reverse, ?_, by simpa using cased, ?_, more⟩
        · rw [← List.reverse_reverse part, whole]
          simp
        · rwa [List.all_reverse]
  · rintro ⟨left, right, rfl, cased, ignorable, more⟩
    have dropped : (left ++ capitalSigma :: right).reverse.dropWhile isCaseIgnorable =
        capitalSigma :: left.reverse :=
      dropWhile_ignorable_eq_iff.mpr ⟨right.reverse, by simp, by rwa [List.all_reverse]⟩
    rw [endsInsideWord, dropped]
    simp [cased, more]

theorem beginsInsideWord_iff {before part after : List Char} :
    beginsInsideWord before part after = true ↔
      ∃ left right, part = left ++ capitalSigma :: right ∧ left.all isCaseIgnorable = true ∧
        nextIsCased before.reverse = true ∧ nextIsCased (right ++ after) = false := by
  constructor
  · intro begins
    unfold beginsInsideWord at begins
    split at begins
    · cases begins
    · next c later dropped =>
        simp only [Bool.and_eq_true, beq_iff_eq, Bool.not_eq_true'] at begins
        obtain ⟨⟨rfl, cased⟩, ends⟩ := begins
        obtain ⟨ignored, whole, ignorable⟩ := dropWhile_ignorable_eq_iff.mp dropped
        exact ⟨ignored, later, whole, ignorable, cased, ends⟩
  · rintro ⟨left, right, rfl, ignorable, cased, ends⟩
    have dropped : (left ++ capitalSigma :: right).dropWhile isCaseIgnorable =
        capitalSigma :: right :=
      dropWhile_ignorable_eq_iff.mpr ⟨left, rfl, ignorable⟩
    rw [beginsInsideWord, dropped]
    simp [cased, ends]

/-- A part is lowered as if it stood alone, unless it begins or ends inside a word. -/
theorem lowerBetween_eq_lower_iff (before part after : List Char) :
    lowerBetween before.reverse part after = lower part ↔
      endsInsideWord part after = false ∧ beginsInsideWord before part after = false := by
  rw [lower, lowerAfter_eq_lowerBetween, lowerBetween_eq_iff, ← Bool.not_eq_true,
    ← Bool.not_eq_true, endsInsideWord_iff, beginsInsideWord_iff]
  simp only [List.append_nil]
  constructor
  · intro sigmas
    constructor
    · rintro ⟨left, right, rfl, cased, ignorable, more⟩
      have kept := (lowerSigma_append_eq_iff _ _ _ _).mp (sigmas left right rfl)
      exact kept.1 ⟨cased, ignorable, more⟩
    · rintro ⟨left, right, rfl, ignorable, cased, ends⟩
      have kept := (lowerSigma_append_eq_iff _ _ _ _).mp (sigmas left right rfl)
      exact kept.2 ⟨by rwa [List.all_reverse], cased, ends⟩
  · rintro ⟨notEnding, notBeginning⟩ left right whole
    apply (lowerSigma_append_eq_iff _ _ _ _).mpr
    constructor
    · rintro ⟨cased, ignorable, more⟩
      exact notEnding ⟨left, right, whole, cased, ignorable, more⟩
    · rintro ⟨ignorable, cased, ends⟩
      exact notBeginning ⟨left, right, whole, by rwa [List.all_reverse] at ignorable, cased, ends⟩

@[simp] theorem endsInsideWord_nil_right (part : List Char) : endsInsideWord part [] = false := by
  rw [Bool.eq_false_iff, Ne, endsInsideWord_iff]
  rintro ⟨left, right, -, -, -, more⟩
  cases more

@[simp] theorem beginsInsideWord_nil_left (part after : List Char) :
    beginsInsideWord [] part after = false := by
  rw [Bool.eq_false_iff, Ne, beginsInsideWord_iff]
  rintro ⟨left, right, -, -, cased, -⟩
  cases cased

theorem inside_word_eq_false_of_not_mem {part : List Char} (plain : capitalSigma ∉ part)
    (before after : List Char) :
    endsInsideWord part after = false ∧ beginsInsideWord before part after = false := by
  rw [← lowerBetween_eq_lower_iff, lower, lowerAfter_eq_lowerBetween, lowerBetween_eq_iff]
  rintro left right rfl
  exact absurd (List.mem_append_right left List.mem_cons_self) plain

end RecordRules.Text
