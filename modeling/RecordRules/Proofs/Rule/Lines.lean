import RecordRules.Proofs.Json.ReadBack

/-!
# Explanations on lines

An explanation is written on one line, whatever line breaks there are in the name of its
rule and in its criteria: control characters in texts are escaped, and the parts of an
explanation are put together without any.  So the end of a printed line is the end of an
explanation.
-/

namespace RecordRules

open Json

def OnOneLine (text : List Char) : Prop :=
  '\n' ∉ text

instance : DecidablePred OnOneLine :=
  fun text => inferInstanceAs (Decidable ('\n' ∉ text))

/-- Whether a text has none of the control characters, of which the line breaks are two. -/
def ControlFree (text : List Char) : Prop :=
  ∀ c ∈ text, 0x20 ≤ c.toNat

instance (text : List Char) : Decidable (ControlFree text) :=
  List.decidableBAll (fun c : Char => 0x20 ≤ c.toNat) text

theorem ControlFree.not_mem {text : List Char} (free : ControlFree text) {c : Char}
    (control : c.toNat < 0x20) : c ∉ text :=
  fun member => absurd control (Nat.not_lt.mpr (free c member))

theorem controlFree_append {front back : List Char} :
    ControlFree (front ++ back) ↔ ControlFree front ∧ ControlFree back :=
  List.forall_mem_append

theorem controlFree_cons {c : Char} {rest : List Char} :
    ControlFree (c :: rest) ↔ 0x20 ≤ c.toNat ∧ ControlFree rest :=
  List.forall_mem_cons

theorem controlFree_digits_of_control : ∀ number < 0x20,
    ControlFree (Text.padZeros 4 (Text.hexDigits number)) := by
  decide

theorem not_control_of_simpleEscape? {letter meaning : Char}
    (means : simpleEscape? letter = some meaning) : 0x20 ≤ letter.toNat := by
  unfold simpleEscape? at means
  split_ifs at means with itself backspace formFeed newLine returned tab
  · simp only [Bool.or_eq_true, decide_eq_true_eq] at itself
    rcases itself with (rfl | rfl) | rfl <;> decide
  all_goals
    subst letter
    decide

theorem controlFree_escapeOne (c : Char) : ControlFree (escapeOne c) := by
  have escaped := escapedAs_escapeOne c
  generalize escapeOne c = written at escaped ⊢
  cases escaped with
  | letter means =>
      exact controlFree_cons.mpr ⟨by decide, controlFree_cons.mpr
        ⟨not_control_of_simpleEscape? means, nofun⟩⟩
  | number control =>
      exact controlFree_cons.mpr ⟨by decide, controlFree_cons.mpr
        ⟨by decide, controlFree_digits_of_control c.toNat control⟩⟩
  | plain _ _ visible => exact controlFree_cons.mpr ⟨Nat.not_lt.mp visible, nofun⟩

/-- A written text has no control character, whatever the text has. -/
theorem controlFree_writeText (text : String) : ControlFree (writeText text) := by
  refine controlFree_cons.mpr ⟨by decide, controlFree_append.mpr ⟨?_, by decide⟩⟩
  intro c inside
  obtain ⟨original, -, inEscape⟩ := List.mem_flatMap.mp inside
  exact controlFree_escapeOne original c inEscape

theorem controlFree_between {separator : List Char} (apart : ControlFree separator)
    {parts : List (List Char)} (each : ∀ part ∈ parts, ControlFree part) :
    ControlFree (between separator parts) := by
  cases parts with
  | nil => exact nofun
  | cons part parts =>
      rw [between_cons, controlFree_append]
      refine ⟨each part List.mem_cons_self, ?_⟩
      intro c inside
      obtain ⟨other, member, inOther⟩ := List.mem_flatMap.mp inside
      exact controlFree_append.mpr
        ⟨apart, each other (List.mem_cons_of_mem part member)⟩ c inOther

theorem controlFree_compactMember (key : String) {value : List Char} (free : ControlFree value) :
    ControlFree (compactMember key value) :=
  controlFree_append.mpr ⟨controlFree_writeText key, controlFree_cons.mpr ⟨by decide, free⟩⟩

theorem controlFree_compactObject {parts : List (List Char)}
    (each : ∀ part ∈ parts, ControlFree part) : ControlFree (compactObject parts) :=
  controlFree_cons.mpr ⟨by decide, controlFree_append.mpr
    ⟨controlFree_between (by decide) each, by decide⟩⟩

theorem controlFree_writeBool (value : Bool) : ControlFree (writeBool value) := by
  cases value with
  | false => decide
  | true => decide

theorem Outcome.controlFree_writeLine (outcome : Outcome) : ControlFree outcome.writeLine := by
  refine controlFree_compactObject ?_
  simp only [List.forall_mem_cons]
  exact ⟨controlFree_compactMember _ (controlFree_writeText _),
    controlFree_compactMember _ (controlFree_writeBool _), nofun⟩

theorem Explanation.controlFree_toLine (explanation : Explanation) :
    ControlFree explanation.toLine.toList := by
  have outcomes : ControlFree
      ('[' :: (between [','] (explanation.outcomes.map (·.writeLine)) ++ [']'])) := by
    refine controlFree_cons.mpr ⟨by decide, controlFree_append.mpr ⟨?_, by decide⟩⟩
    refine controlFree_between (by decide) ?_
    simp only [List.forall_mem_map]
    exact fun outcome _ => outcome.controlFree_writeLine
  rw [toLine, String.toList_ofList]
  refine controlFree_compactObject ?_
  simp only [List.forall_mem_cons]
  exact ⟨controlFree_compactMember _ (controlFree_writeText _),
    controlFree_compactMember _ (controlFree_writeBool _), controlFree_compactMember _ outcomes,
    nofun⟩

theorem Explanation.onOneLine_toLine (explanation : Explanation) :
    OnOneLine explanation.toLine.toList :=
  explanation.controlFree_toLine.not_mem (by decide)

end RecordRules
