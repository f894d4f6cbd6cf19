import Mathlib.Data.List.Forall2
import RecordRules.Text.Casing

/-!
# The case of ASCII letters

Two texts that differ in the case of ASCII letters only have the same lower case, whatever
characters stand between those letters: a capital letter and its small letter are lowered
alike, and a capital sigma sees the same in both.  The lower case of an ASCII text is its
lower case letter by letter.
-/

namespace RecordRules.Text

def CapitalOf (capital small : Char) : Prop :=
  isAsciiUpper capital = true ∧ small.toNat = capital.toNat + 32

/-- Characters that are the same up to the case of an ASCII letter. -/
def SameUpToCase (c d : Char) : Prop :=
  c = d ∨ CapitalOf c d ∨ CapitalOf d c

/-- Texts that differ in the case of ASCII letters only. -/
def Recased (text other : List Char) : Prop :=
  List.Forall₂ SameUpToCase text other

/-! ## Letters and their codes -/

theorem isAsciiUpper_iff {c : Char} : isAsciiUpper c = true ↔ 65 ≤ c.toNat ∧ c.toNat ≤ 90 := by
  simp [isAsciiUpper, Char.le_def, UInt32.le_iff_toNat_le]

theorem isAsciiLetter_iff {c : Char} :
    isAsciiLetter c = true ↔
      (65 ≤ c.toNat ∧ c.toNat ≤ 90) ∨ (97 ≤ c.toNat ∧ c.toNat ≤ 122) := by
  rw [isAsciiLetter, Bool.or_eq_true, isAsciiUpper_iff]
  simp [Char.le_def, UInt32.le_iff_toNat_le]

theorem toNat_asciiLower (c : Char) :
    (asciiLower c).toNat =
      if 65 ≤ c.toNat ∧ c.toNat ≤ 90 then c.toNat + 32 else c.toNat := by
  unfold asciiLower
  by_cases upper : isAsciiUpper c = true
  · have bounds := isAsciiUpper_iff.mp upper
    rw [if_pos upper, if_pos bounds, Char.ofNat, dif_pos (Or.inl (by omega))]
    rfl
  · rw [if_neg upper, if_neg (mt isAsciiUpper_iff.mpr upper)]

theorem sameUpToCase_iff {c d : Char} : SameUpToCase c d ↔ asciiLower c = asciiLower d := by
  rw [← Char.toNat_inj, toNat_asciiLower, toNat_asciiLower, SameUpToCase, CapitalOf, CapitalOf,
    ← Char.toNat_inj, isAsciiUpper_iff, isAsciiUpper_iff]
  constructor
  · rintro (same | ⟨upper, small⟩ | ⟨upper, small⟩)
    · rw [same]
    · rw [if_pos upper, if_neg (by omega)]
      omega
    · rw [if_neg (by omega), if_pos upper]
      omega
  · intro lowered
    split at lowered
    · split at lowered
      · exact .inl (by omega)
      · next upper _ => exact .inr (.inl ⟨upper, by omega⟩)
    · split at lowered
      · next upper => exact .inr (.inr ⟨upper, by omega⟩)
      · exact .inl lowered

theorem recased_iff {text other : List Char} :
    Recased text other ↔ text.map asciiLower = other.map asciiLower := by
  have alike : SameUpToCase = fun c d => asciiLower c = asciiLower d := by
    funext c d
    exact propext sameUpToCase_iff
  rw [Recased, alike, ← List.forall₂_eq_eq_eq, List.forall₂_map_left_iff,
    List.forall₂_map_right_iff]

/-! ## Lower case does not tell capitals from small letters -/

/-- What the lower case of a text asks of a character. -/
structure LoweredAlike (c d : Char) : Prop where
  cased : isCased c = isCased d
  ignorable : isCaseIgnorable c = isCaseIgnorable d
  sigma : (c == capitalSigma) = (d == capitalSigma)
  one : lowerOne c = lowerOne d

theorem isCased_of_isAsciiLetter {c : Char} (letter : isAsciiLetter c = true) :
    isCased c = true := by
  have bounds := isAsciiLetter_iff.mp letter
  rw [isCased, if_pos (by omega)]
  exact letter

theorem isCaseIgnorable_of_isAsciiLetter {c : Char} (letter : isAsciiLetter c = true) :
    isCaseIgnorable c = false := by
  have bounds := isAsciiLetter_iff.mp letter
  have marks : ∀ mark : Char, mark.toNat = 46 ∨ mark.toNat = 58 ∨ mark.toNat = 94 →
      (c == mark) = false := by
    intro mark code
    rw [beq_eq_false_iff_ne, Ne, ← Char.toNat_inj]
    omega
  rw [isCaseIgnorable, if_pos (by omega), marks '.' (.inl rfl), marks ':' (.inr (.inl rfl)),
    marks '^' (.inr (.inr rfl))]
  simp only [Bool.or_false, Bool.or_eq_false_iff, beq_eq_false_iff_ne]
  omega

theorem beq_capitalSigma_of_ascii {c : Char} (ascii : c.toNat < 128) :
    (c == capitalSigma) = false := by
  rw [beq_eq_false_iff_ne]
  rintro rfl
  exact absurd ascii (by decide)

theorem lowerOne_of_ascii {c : Char} (ascii : c.toNat < 128) : lowerOne c = [asciiLower c] :=
  if_pos ascii

/-- ASCII letters with one lower case are lowered alike, since every letter ends a search. -/
theorem loweredAlike_of_letters {c d : Char} (first : isAsciiLetter c = true)
    (second : isAsciiLetter d = true) (same : asciiLower c = asciiLower d) :
    LoweredAlike c d := by
  have firstAscii : c.toNat < 128 := by
    have bounds := isAsciiLetter_iff.mp first
    omega
  have secondAscii : d.toNat < 128 := by
    have bounds := isAsciiLetter_iff.mp second
    omega
  constructor
  · rw [isCased_of_isAsciiLetter first, isCased_of_isAsciiLetter second]
  · rw [isCaseIgnorable_of_isAsciiLetter first, isCaseIgnorable_of_isAsciiLetter second]
  · rw [beq_capitalSigma_of_ascii firstAscii, beq_capitalSigma_of_ascii secondAscii]
  · rw [lowerOne_of_ascii firstAscii, lowerOne_of_ascii secondAscii, same]

theorem CapitalOf.letters {capital small : Char} (letter : CapitalOf capital small) :
    isAsciiLetter capital = true ∧ isAsciiLetter small = true := by
  obtain ⟨upper, code⟩ := letter
  have bounds := isAsciiUpper_iff.mp upper
  exact ⟨isAsciiLetter_iff.mpr (.inl bounds), isAsciiLetter_iff.mpr (.inr (by omega))⟩

theorem SameUpToCase.loweredAlike {c d : Char} (same : SameUpToCase c d) : LoweredAlike c d := by
  have lowered := sameUpToCase_iff.mp same
  rcases same with rfl | capital | small
  · exact ⟨rfl, rfl, rfl, rfl⟩
  · exact loweredAlike_of_letters capital.letters.1 capital.letters.2 lowered
  · exact loweredAlike_of_letters small.letters.2 small.letters.1 lowered

/-- A capital sigma sees the same before and behind it. -/
theorem Recased.nextIsCased_eq {text other : List Char} (recased : Recased text other) :
    nextIsCased text = nextIsCased other := by
  induction recased with
  | nil => rfl
  | @cons c d rest others same recased ih =>
      have alike := same.loweredAlike
      cases ignorable : isCaseIgnorable d with
      | true =>
          have ignorableToo : isCaseIgnorable c = true := alike.ignorable.trans ignorable
          simpa [nextIsCased, ignorable, ignorableToo] using ih
      | false =>
          have solidToo : isCaseIgnorable c = false := alike.ignorable.trans ignorable
          simp [nextIsCased, ignorable, solidToo, alike.cased]

theorem Recased.lowerSigma_eq {before before' after after' : List Char}
    (recasedBefore : Recased before before') (recasedAfter : Recased after after') :
    lowerSigma before after = lowerSigma before' after' := by
  rw [lowerSigma, lowerSigma, recasedBefore.nextIsCased_eq, recasedAfter.nextIsCased_eq]

theorem Recased.lowerAfter_eq {text other : List Char} (recased : Recased text other)
    {before before' : List Char} (recasedBefore : Recased before before') :
    lowerAfter before text = lowerAfter before' other := by
  induction recased generalizing before before' with
  | nil => rfl
  | @cons c d rest others same recased ih =>
      have alike := same.loweredAlike
      rw [lowerAfter, lowerAfter, ih (.cons same recasedBefore), alike.sigma, alike.one,
        recasedBefore.lowerSigma_eq recased]

/-- Texts that differ in the case of ASCII letters only have the same lower case. -/
theorem Recased.lower_eq {text other : List Char} (recased : Recased text other) :
    lower text = lower other :=
  recased.lowerAfter_eq .nil

/-! ## ASCII texts -/

def IsAscii (text : List Char) : Prop :=
  ∀ c ∈ text, c.toNat < 128

instance (text : List Char) : Decidable (IsAscii text) :=
  decidable_of_iff (text.all (·.toNat < 128) = true) (by simp [IsAscii])

theorem lowerAfter_of_ascii {text : List Char} (ascii : IsAscii text) (before : List Char) :
    lowerAfter before text = text.map asciiLower := by
  induction text generalizing before with
  | nil => rfl
  | cons c rest ih =>
      have here : c.toNat < 128 := ascii c List.mem_cons_self
      have later : IsAscii rest := fun d member => ascii d (List.mem_cons_of_mem c member)
      rw [lowerAfter, beq_capitalSigma_of_ascii here, lowerOne_of_ascii here, ih later]
      rfl

theorem lower_of_ascii {text : List Char} (ascii : IsAscii text) :
    lower text = text.map asciiLower :=
  lowerAfter_of_ascii ascii []

section Occurrences

variable {needle text : List Char}

theorem lower_infix_iff_recased (asciiNeedle : IsAscii needle) (asciiText : IsAscii text) :
    lower needle <:+: lower text ↔ ∃ part, part <:+: text ∧ Recased needle part := by
  rw [lower_of_ascii asciiNeedle, lower_of_ascii asciiText, List.infix_map_iff]
  simp only [recased_iff]

theorem lower_prefix_iff_recased (asciiNeedle : IsAscii needle) (asciiText : IsAscii text) :
    lower needle <+: lower text ↔ Recased needle (text.take needle.length) := by
  rw [lower_of_ascii asciiNeedle, lower_of_ascii asciiText, List.prefix_iff_eq_take,
    List.length_map, recased_iff, List.map_take]

theorem lower_suffix_iff_recased (asciiNeedle : IsAscii needle) (asciiText : IsAscii text) :
    lower needle <:+ lower text ↔
      Recased needle (text.drop (text.length - needle.length)) := by
  rw [lower_of_ascii asciiNeedle, lower_of_ascii asciiText, List.suffix_iff_eq_drop,
    List.length_map, List.length_map, recased_iff, List.map_drop]

end Occurrences

end RecordRules.Text
