import RecordRules.Proofs.Json.Grammar

/-!
# Every value is passed over

A value of any kind and depth is passed over exactly, whatever stands before it in blanks and
whatever follows it inside a list or an object.  The sizes of its numbers do not matter, and neither
do surrogates without a partner in its texts and keys.
-/

namespace RecordRules.Json

open Text

/-! ## Texts -/

theorem skipText_plain {c : Char} (notQuote : c ≠ '"') (notBackslash : c ≠ '\\')
    (visible : ¬ c.toNat < 0x20) (rest : List Char) : skipText (c :: rest) = skipText rest := by
  rw [skipText]
  · rw [if_neg visible]
  · exact notQuote
  all_goals simp [notBackslash]

theorem skipText_simpleEscape {letter meaning : Char}
    (means : simpleEscape? letter = some meaning) (notU : letter ≠ 'u') (rest : List Char) :
    skipText ('\\' :: letter :: rest) = skipText rest := by
  rw [skipText]
  · rw [means]
  all_goals simp [notU]

theorem Piece.Spelled.skipText_eq {pieces : List Piece} {text : List Char}
    (spelled : Spelled pieces text) (rest : List Char) :
    skipText (text ++ '"' :: rest) = .ok rest := by
  induction spelled with
  | nil => rfl
  | plain notQuote notBackslash visible _ ih =>
      rw [List.cons_append, skipText_plain notQuote notBackslash (by omega), ih]
  | letter known _ ih =>
      obtain ⟨means, notU⟩ := simpleEscape?_of_mem _ known
      rw [List.cons_append, List.cons_append, skipText_simpleEscape means notU, ih]
  | unit numbered _ ih => simp only [List.cons_append, skipText, numbered, ih]

/-! ## Numbers -/

section Numbers

variable {number : NumberText} {rest : List Char}

theorem skipExponent_write (complete : number.Complete) (ends : NumberText.Ends rest) :
    skipExponent (number.exponentText ++ rest) = .ok rest := by
  unfold NumberText.exponentText
  cases shape : number.exponent with
  | none =>
      cases rest with
      | nil => rfl
      | cons c rest =>
          obtain ⟨-, -, noMark, noCapital⟩ := ends c rfl
          simp [skipExponent, noMark, noCapital]
  | some exponent =>
      have run := complete.exponent exponent shape
      have taken := takeDigits_of_digitRun run fun c first => (ends c first).1
      have marked : ((if exponent.capital then 'E' else 'e') = 'e' ||
          (if exponent.capital then 'E' else 'e') = 'E') = true := by
        cases exponent.capital <;> rfl
      simp only [Option.elim_some, ExponentText.write, List.cons_append, List.append_assoc,
        skipExponent, marked, if_true, ExponentText.signText]
      cases exponent.sign with
      | none =>
          rw [List.nil_append]
          split
          · next same => exact absurd same (run.append_ne_cons rfl)
          · next same => exact absurd same (run.append_ne_cons rfl)
          · simp only [taken, run.isEmpty_eq, Bool.false_eq_true, if_false]
      | some minus =>
          cases minus <;>
            simp only [List.cons_append, List.nil_append, taken, run.isEmpty_eq, Bool.false_eq_true,
              if_false]

theorem skipFraction_write (complete : number.Complete) (ends : NumberText.Ends rest) :
    skipFraction (number.fractionText ++ (number.exponentText ++ rest)) = .ok rest := by
  have skipped := skipExponent_write complete ends
  unfold NumberText.fractionText
  cases pointed : number.fraction with
  | none =>
      rw [Option.elim_none, List.nil_append, skipFraction]
      · exact skipped
      · intro others same
        have noPoint := (number.head_exponentText_append ends).1
        rw [same] at noPoint
        exact noPoint '.' rfl rfl
  | some digits =>
      have run := complete.fraction digits pointed
      have taken := takeDigits_of_digitRun run
        (number.not_digit_of_head_append fun c first => (ends c first).1)
      simp only [Option.elim_some, List.cons_append, skipFraction, taken, run.isEmpty_eq,
        Bool.false_eq_true, if_false, skipped]

theorem skipNumber_write (proper : number.Proper) (ends : NumberText.Ends rest) :
    skipNumber (number.write ++ rest) = .ok rest := by
  have skipped : skipUnsigned (number.unsigned ++ rest) = .ok rest := by
    simp only [skipUnsigned, takeDigits_unsigned proper.toComplete ends]
    split
    · next empty => exact absurd empty proper.whole.nonempty
    · next c others zero => exact absurd zero fun same => proper.front c others same
    · exact skipFraction_write proper.toComplete ends
  unfold NumberText.write
  split
  · exact skipped
  · rw [skipNumber]
    · exact skipped
    · intro others same
      rw [NumberText.unsigned, List.append_assoc] at same
      exact proper.whole.append_ne_cons rfl same

end Numbers

/-! ## Lists and objects -/

/-- Whether a text is passed over, with the blanks before it and nothing of what follows it. -/
def PassesOver (skip : List Char → Except Fault (List Char)) (text : List Char) : Prop :=
  ∀ gap rest, IsGap gap → Follows rest → skip (gap ++ (text ++ rest)) = .ok rest

section Loops

variable {skip : List Char → Except Fault (List Char)} {first : Bool} {inside : List Char}
  {α : Type} {steps : Nat}

theorem skipItems_parts {items : List α}
    (parts : Parts ']' (fun _ text => Begins text ∧ PassesOver skip text) first items inside)
    (enough : items.length ≤ steps) (rest : List Char) :
    skipItems skip (steps + 1) first (inside ++ rest) = .ok rest := by
  -- Blanks behind a comma are left to the item, those before the first item are taken here.
  induction parts generalizing steps with
  | close blank =>
      rw [List.append_assoc, skipItems, skipSpaces_gap_append blank]
      rfl
  | part led here onward ih =>
      obtain ⟨⟨c, text, rfl, opens⟩, passes⟩ := here
      obtain ⟨solid, notComma, notClosing, -⟩ := opens
      have follows := onward.follows (by decide) rest
      cases steps with
      | zero => exact absurd enough (Nat.not_succ_le_zero _)
      | succ steps =>
          have others := ih (Nat.le_of_succ_le_succ enough)
          cases led with
          | opening blank =>
              have passed := passes [] _ isGap_nil follows
              simp only [List.nil_append, List.cons_append, List.append_assoc] at passed ⊢
              rw [skipItems]
              simp only [skipSpaces_gap_cons blank solid, if_neg notClosing, if_true, passed]
              exact others
          | comma blankBefore blankAfter =>
              have passed := passes _ _ blankAfter follows
              simp only [List.cons_append, List.append_assoc] at passed ⊢
              rw [skipItems]
              simp only [skipSpaces_gap_cons blankBefore (show isSpace ',' = false from rfl),
                Char.reduceEq, Bool.false_eq_true, if_false, if_true, passed]
              exact others

theorem colon_gap {gap : List Char} (blank : IsGap gap) (rest : List Char) :
    colon (gap ++ ':' :: rest) = .ok rest := by
  simp only [colon, skipSpaces_gap_cons blank (show isSpace ':' = false from rfl), if_true]

theorem skipMember_pair {member : List Piece × α} {text : List Char}
    (spelled : MemberOf (fun _ text => PassesOver skip text) member text) {gap rest : List Char}
    (blank : IsGap gap) (follows : Follows rest) :
    skipMember skip (gap ++ (text ++ rest)) = .ok rest := by
  cases spelled with
  | pair named blankBehind blankAhead passes =>
      have passed := passes _ _ blankAhead follows
      simp only [skipMember, List.cons_append, List.append_assoc,
        skipSpaces_gap_cons blank (show isSpace '"' = false from rfl), if_true, named.skipText_eq,
        colon_gap blankBehind, bind, Except.bind, passed]

theorem skipMembers_parts {members : List (List Piece × α)}
    (parts : Parts '\x7d' (MemberOf fun _ text => PassesOver skip text) first members inside)
    (enough : members.length ≤ steps) (rest : List Char) :
    skipMembers skip (steps + 1) first (inside ++ rest) = .ok rest := by
  induction parts generalizing steps with
  | close blank =>
      rw [List.append_assoc, skipMembers, skipSpaces_gap_append blank]
      rfl
  | part led here onward ih =>
      have passes := fun gap (blank : IsGap gap) => skipMember_pair here blank
        (onward.follows (by decide) rest)
      cases steps with
      | zero => exact absurd enough (Nat.not_succ_le_zero _)
      | succ steps =>
          have others := ih (Nat.le_of_succ_le_succ enough)
          cases led with
          | opening blank =>
              have passed := passes [] isGap_nil
              cases here with
              | pair named blankBehind blankAhead value =>
                  simp only [List.nil_append, List.cons_append, List.append_assoc] at passed ⊢
                  rw [skipMembers]
                  simp only [skipSpaces_gap_cons blank (show isSpace '"' = false from rfl),
                    Char.reduceEq, if_false, if_true, passed]
                  exact others
          | comma blankBefore blankAfter =>
              have passed := passes _ blankAfter
              simp only [List.cons_append, List.append_assoc] at passed ⊢
              rw [skipMembers]
              simp only [skipSpaces_gap_cons blankBefore (show isSpace ',' = false from rfl),
                Char.reduceEq, Bool.false_eq_true, if_false, if_true, passed]
              exact others

end Loops

/-! ## Values -/

/-- A value is passed over within any depth that its length does not exceed. -/
theorem Tree.Spelled.passesOver_skipWithin {tree : Tree} {text : List Char} {depth : Nat}
    (spelled : tree.Spelled text) (enough : text.length ≤ depth) :
    PassesOver (skipWithin depth) text := by
  -- What is inside a list or an object is shorter than it, so that one level less is enough.
  induction depth generalizing tree text with
  | zero =>
      obtain ⟨c, rest, rfl, -⟩ := spelled.exists_eq_cons
      cases enough
  | succ depth ih =>
      intro gap rest blank follows
      cases spelled with
      | null =>
          rw [skipWithin, List.cons_append, skipSpaces_gap_cons blank rfl]
          rfl
      | yes =>
          rw [skipWithin, List.cons_append, skipSpaces_gap_cons blank rfl]
          rfl
      | no =>
          rw [skipWithin, List.cons_append, skipSpaces_gap_cons blank rfl]
          rfl
      | number proper =>
          have skipped := skipNumber_write proper follows.ends
          obtain ⟨c, others, shape, first⟩ := exists_write_eq_cons proper.toComplete
          obtain ⟨visible, notNull, notTrue, notFalse⟩ := solid_of_numeric first
          have numeric : (c = '-' || isDigit c) = true := by
            simpa using first
          rw [shape, List.cons_append] at skipped ⊢
          simp only [skipWithin, skipSpaces_gap_cons blank visible, if_neg notNull, if_neg notTrue,
            if_neg notFalse, numeric, if_true, skipped]
      | text body =>
          rw [skipWithin, List.cons_append, skipSpaces_gap_cons blank rfl, List.append_assoc]
          exact body.skipText_eq rest
      | @list items inside parts =>
          have within : inside.length ≤ depth := Nat.le_of_succ_le_succ enough
          have passing : Parts ']' (fun _ text => Begins text ∧ PassesOver (skipWithin depth) text)
              true items inside :=
            parts.imp fun item text shorter here =>
              ⟨here.begins, ih here (Nat.le_trans shorter within)⟩
          rw [skipWithin, List.cons_append, skipSpaces_gap_cons blank rfl]
          exact skipItems_parts passing (parts.length_le rest) rest
      | @object members inside parts =>
          have within : inside.length ≤ depth := Nat.le_of_succ_le_succ enough
          have passing : Parts '\x7d' (MemberOf fun _ text => PassesOver (skipWithin depth) text)
              true members inside :=
            parts.imp fun member text shorter pair => pair.imp fun value spelling small here =>
              ih here (Nat.le_trans small (Nat.le_trans shorter within))
          rw [skipWithin, List.cons_append, skipSpaces_gap_cons blank rfl]
          exact skipMembers_parts passing (parts.length_le rest) rest

theorem Tree.Spelled.passesOver_skipValue {tree : Tree} {text : List Char}
    (spelled : tree.Spelled text) : PassesOver skipValue text := by
  intro gap rest blank follows
  refine spelled.passesOver_skipWithin ?_ gap rest blank follows
  simp only [List.length_append]
  omega

end RecordRules.Json
