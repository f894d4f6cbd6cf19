import Mathlib.Data.List.Forall2
import Mathlib.Tactic.SplitIfs
import RecordRules.Json.Reader
import RecordRules.Rule.Written

/-!
# Written JSON is read back

A reader reads a written form back if it takes it off the front of any text, for the value
that was written, whatever stands before it in blanks and whatever follows.  Texts are read
back with all their characters, escaped or not; lists and objects are read back if their
parts are.  Every written form shows by its first and last characters where it starts and ends, so
nothing has to be known about what follows.
-/

namespace RecordRules.Json

open RecordRules.Text

/-! ## Texts -/

theorem padZeros_hexDigits_of_control : ∀ number < 0x20,
    padZeros 4 (hexDigits number) =
        ['0', '0', Nat.digitChar (number / 16), Nat.digitChar (number % 16)] ∧
      hexUnit? '0' '0' (Nat.digitChar (number / 16)) (Nat.digitChar (number % 16)) =
        some number := by
  decide

theorem textBody_unit {a b c d : Char} {unit : Nat} (numbered : hexUnit? a b c d = some unit)
    (below : unit < 0xD800) (rest : List Char) :
    textBody ('\\' :: 'u' :: a :: b :: c :: d :: rest) =
      consText (Char.ofNat unit) (textBody rest) := by
  have notTrailing : isTrailing unit = false := by
    simp only [isTrailing, Bool.and_eq_false_iff, decide_eq_false_iff_not]
    omega
  have notLeading : isLeading unit = false := by
    simp only [isLeading, Bool.and_eq_false_iff, decide_eq_false_iff_not]
    omega
  simp [textBody, numbered, notTrailing, notLeading]

theorem textBody_simpleEscape {letter meaning : Char} (means : simpleEscape? letter = some meaning)
    (rest : List Char) :
    textBody ('\\' :: letter :: rest) = consText meaning (textBody rest) := by
  have notU : letter ≠ 'u' := by
    rintro rfl
    cases means
  rw [textBody]
  · rw [means]
  all_goals simp [notU]

theorem textBody_plain {c : Char} (notQuote : c ≠ '"') (notBackslash : c ≠ '\\')
    (visible : ¬ c.toNat < 0x20) (rest : List Char) :
    textBody (c :: rest) = consText c (textBody rest) := by
  rw [textBody]
  · rw [if_neg visible]
  · exact notQuote
  all_goals simp [notBackslash]

/-- The written forms of a character: an escape by a letter or by a number, or the character. -/
inductive EscapedAs (c : Char) : List Char → Prop where
  | letter {letter : Char} (means : simpleEscape? letter = some c) : EscapedAs c ['\\', letter]
  | number (control : c.toNat < 0x20) : EscapedAs c ('\\' :: 'u' :: padZeros 4 (hexDigits c.toNat))
  | plain (notQuote : c ≠ '"') (notBackslash : c ≠ '\\') (visible : ¬ c.toNat < 0x20) :
      EscapedAs c [c]

theorem escapedAs_escapeOne (c : Char) : EscapedAs c (escapeOne c) := by
  unfold escapeOne
  split_ifs with quote backslash backspace formFeed newLine returned tab control
  · exact .letter (by rw [quote]; rfl)
  · exact .letter (by rw [backslash]; rfl)
  · exact .letter (by rw [← Char.ofNat_toNat c, backspace]; rfl)
  · exact .letter (by rw [← Char.ofNat_toNat c, formFeed]; rfl)
  · exact .letter (by rw [newLine]; rfl)
  · exact .letter (by rw [returned]; rfl)
  · exact .letter (by rw [tab]; rfl)
  · exact .number control
  · exact .plain quote backslash control

theorem textBody_escapeOne (c : Char) (rest : List Char) :
    textBody (escapeOne c ++ rest) = consText c (textBody rest) := by
  -- Whichever character it is, only the shape of its written form decides how it is read.
  have escaped := escapedAs_escapeOne c
  generalize escapeOne c = written at escaped ⊢
  cases escaped with
  | letter means => exact textBody_simpleEscape means rest
  | number control =>
      obtain ⟨digits, numbered⟩ := padZeros_hexDigits_of_control c.toNat control
      rw [digits]
      exact (textBody_unit numbered (by omega) rest).trans (by rw [Char.ofNat_toNat])
  | plain notQuote notBackslash visible => exact textBody_plain notQuote notBackslash visible rest

theorem textBody_escaped (text rest : List Char) :
    textBody (text.flatMap escapeOne ++ '"' :: rest) = .ok (text, rest) := by
  induction text with
  | nil => rfl
  | cons c text ih =>
      rw [List.flatMap_cons, List.append_assoc, textBody_escapeOne, ih]
      rfl

theorem textAfterQuote_escaped (text : String) (rest : List Char) :
    textAfterQuote (text.toList.flatMap escapeOne ++ '"' :: rest) = .ok (text, rest) := by
  simp only [textAfterQuote, textBody_escaped, Except.map, String.ofList_toList]

/-! ## Blanks -/

def IsGap (text : List Char) : Prop :=
  ∀ c ∈ text, isSpace c = true

instance (text : List Char) : Decidable (IsGap text) :=
  List.decidableBAll (fun c => isSpace c = true) text

@[simp] theorem isGap_nil : IsGap [] := by simp [IsGap]

theorem IsGap.append {first second : List Char} (blankFirst : IsGap first)
    (blankSecond : IsGap second) : IsGap (first ++ second) := by
  intro c member
  exact (List.mem_append.mp member).elim (blankFirst c) (blankSecond c)

theorem isGap_newLine (level : Nat) : IsGap (newLine level) := by
  intro c member
  rcases List.mem_cons.mp member with rfl | blank
  · rfl
  · rw [List.eq_of_mem_replicate blank]
    rfl

@[simp] theorem skipSpaces_gap_append {gap : List Char} (blank : IsGap gap) (text : List Char) :
    skipSpaces (gap ++ text) = skipSpaces text :=
  List.dropWhile_append_of_pos blank

theorem skipSpaces_cons {c : Char} (solid : isSpace c = false) (rest : List Char) :
    skipSpaces (c :: rest) = c :: rest := by
  simp [skipSpaces, solid]

theorem skipSpaces_gap_cons {gap : List Char} (blank : IsGap gap) {c : Char}
    (solid : isSpace c = false) (rest : List Char) :
    skipSpaces (gap ++ c :: rest) = c :: rest := by
  rw [skipSpaces_gap_append blank, skipSpaces_cons solid]

/-! ## Values -/

/-- Whether a reader takes a written form off the front of any text, for the value that was
written.  Blanks may stand before it. -/
structure ReadsBack {α : Type} (read : Reader α) (written : List Char) (value : α) : Prop where
  /-- The written form is not empty, and neither blanks nor the end of a list. -/
  solid : ∃ c rest, written = c :: rest ∧ isSpace c = false ∧ c ≠ ']'
  reads : ∀ gap rest, IsGap gap → read (gap ++ (written ++ rest)) = .ok (value, rest)

namespace ReadsBack

variable {α β : Type} {read : Reader α} {written : List Char} {value : α}

theorem ne_nil (back : ReadsBack read written value) : written ≠ [] := by
  obtain ⟨c, rest, rfl, -, -⟩ := back.solid
  exact List.cons_ne_nil _ _

theorem map (back : ReadsBack read written value) (put : α → β) :
    ReadsBack (fun text => (read text).map fun (value, rest) => (put value, rest)) written
      (put value) where
  solid := back.solid
  reads gap rest blank := by
    simp only [back.reads gap rest blank, Except.map]

/-- A whole text consists of a written form with blanks around it. -/
theorem whole_eq (back : ReadsBack read written value) {before after : List Char}
    (blankBefore : IsGap before) (blankAfter : IsGap after) :
    whole read (before ++ (written ++ after)) = .ok value := by
  have nothing : skipSpaces after = [] := by
    rw [← List.append_nil after, skipSpaces_gap_append blankAfter]
    rfl
  simp only [whole, back.reads before after blankBefore, bind, Except.bind, nothing,
    List.isEmpty_nil, if_true]

end ReadsBack

theorem readsBack_text (text : String) : ReadsBack textValue (writeText text) text where
  solid := ⟨'"', _, rfl, rfl, by decide⟩
  reads gap rest blank := by
    simp only [textValue, writeText, List.cons_append, List.append_assoc, List.nil_append,
      skipSpaces_gap_cons blank (show isSpace '"' = false from rfl), if_true,
      textAfterQuote_escaped]

theorem readsBack_argument (argument : Option String) :
    ReadsBack (optionalValue textValue) (writeArgument argument) argument := by
  cases argument with
  | none =>
      refine ⟨⟨'n', ['u', 'l', 'l'], rfl, rfl, by decide⟩, fun gap rest blank => ?_⟩
      have shown : skipSpaces (gap ++ (writeArgument none ++ rest)) =
          'n' :: 'u' :: 'l' :: 'l' :: rest := skipSpaces_gap_cons blank rfl _
      rw [optionalValue, shown]
      rfl
  | some text =>
      refine ⟨(readsBack_text text).solid, fun gap rest blank => ?_⟩
      have shown : skipSpaces (gap ++ (writeArgument (some text) ++ rest)) =
          writeText text ++ rest := skipSpaces_gap_cons blank rfl _
      have read : textValue (writeText text ++ rest) = .ok (text, rest) :=
        (readsBack_text text).reads [] rest isGap_nil
      rw [optionalValue, shown]
      change (textValue (writeText text ++ rest) >>= _) = _
      rw [read]
      rfl

/-! ## Lists -/

section Parts

variable (separator : List Char)

theorem between_cons (part : List Char) (parts : List (List Char)) :
    between separator (part :: parts) = part ++ parts.flatMap (separator ++ ·) := by
  induction parts generalizing part with
  | nil => simp [between]
  | cons next parts ih => simp only [between, ih, List.flatMap_cons, List.append_assoc]

theorem length_le_length_between {parts : List (List Char)} (filled : ∀ part ∈ parts, part ≠ []) :
    parts.length ≤ (between separator parts).length := by
  induction parts with
  | nil => exact Nat.zero_le _
  | cons part parts ih =>
      have positive := List.length_pos_iff.mpr (filled part List.mem_cons_self)
      have others := ih fun other member => filled other (List.mem_cons_of_mem part member)
      cases parts with
      | nil => exact positive
      | cons next parts =>
          simp only [between, List.length_append, List.length_cons] at others ⊢
          omega

end Parts

theorem nextElement_end {gap : List Char} (blank : IsGap gap) (first : Bool) (rest : List Char) :
    nextElement first (gap ++ ']' :: rest) = .ok (false, rest) := by
  simp only [nextElement, skipSpaces_gap_cons blank (show isSpace ']' = false from rfl), if_true]

/-- What stands before a part: blanks, and a comma among them if there are parts before it. -/
inductive Lead : (first : Bool) → List Char → Prop where
  | opening {gap : List Char} (blank : IsGap gap) : Lead true gap
  | comma {before after : List Char} (blankBefore : IsGap before) (blankAfter : IsGap after) :
      Lead false (before ++ ',' :: after)

/-- An element is seen behind what stands before it. -/
theorem nextElement_led {first : Bool} {lead : List Char} (led : Lead first lead) {c : Char}
    (solid : isSpace c = false) (inside : c ≠ ']') (rest : List Char) :
    nextElement first (lead ++ c :: rest) = .ok (true, c :: rest) := by
  cases led with
  | opening blank =>
      simp only [nextElement, skipSpaces_gap_cons blank solid, if_neg inside, if_true]
  | comma blankBefore blankAfter =>
      simp only [nextElement, List.append_assoc, List.cons_append,
        skipSpaces_gap_cons blankBefore (show isSpace ',' = false from rfl),
        skipSpaces_gap_cons blankAfter solid, if_neg inside, Char.reduceEq, Bool.false_eq_true,
        if_false, if_true]

section Elements

variable {α : Type} {read : Reader α} {written : List Char} {value : α}

theorem ReadsBack.nextElement_eq (back : ReadsBack read written value) {first : Bool}
    {lead : List Char} (led : Lead first lead) (rest : List Char) :
    nextElement first (lead ++ (written ++ rest)) = .ok (true, written ++ rest) := by
  obtain ⟨c, tail, rfl, solid, inside⟩ := back.solid
  exact nextElement_led led solid inside (tail ++ rest)

variable {items : List α} {parts : List (List Char)} {before after : List Char}

theorem elements_end {gap : List Char} (blank : IsGap gap) (steps : Nat) (first : Bool)
    (rest : List Char) : elements read (steps + 1) first (gap ++ ']' :: rest) = .ok ([], rest) := by
  simp only [elements, nextElement_end blank, bind, Except.bind, Bool.false_eq_true, if_false]

theorem ReadsBack.elements_cons (back : ReadsBack read written value) {first : Bool}
    {text rest : List Char} (found : nextElement first text = .ok (true, written ++ rest))
    {steps : Nat} {values : List α} {after : List Char}
    (others : elements read steps false rest = .ok (values, after)) :
    elements read (steps + 1) first text = .ok (value :: values, after) := by
  have here : read (written ++ rest) = .ok (value, rest) := back.reads [] rest isGap_nil
  simp only [elements, found, bind, Except.bind, if_true, here, others]

theorem elements_later (beside : List.Forall₂ (ReadsBack read) parts items)
    (blankBefore : IsGap before) (blankAfter : IsGap after) {closing : List Char}
    (blankClosing : IsGap closing) {bound : Nat} (enough : parts.length ≤ bound)
    (rest : List Char) :
    elements read (bound + 1) false
        (parts.flatMap ((before ++ ',' :: after) ++ ·) ++ (closing ++ ']' :: rest)) =
      .ok (items, rest) := by
  -- Each element takes one step of the bound, and the end of the list takes the last one.
  induction beside generalizing bound with
  | nil => exact elements_end blankClosing bound false rest
  | cons back _ ih =>
      cases bound with
      | zero => exact absurd enough (Nat.not_succ_le_zero _)
      | succ bound =>
          have others := ih (Nat.le_of_succ_le_succ enough)
          rw [List.flatMap_cons, List.append_assoc, List.append_assoc]
          exact back.elements_cons (back.nextElement_eq (.comma blankBefore blankAfter) _) others

theorem elements_between (beside : List.Forall₂ (ReadsBack read) parts items)
    {opening closing : List Char} (blankOpening : IsGap opening) (blankBefore : IsGap before)
    (blankAfter : IsGap after) (blankClosing : IsGap closing) {bound : Nat}
    (enough : parts.length ≤ bound) (rest : List Char) :
    elements read (bound + 1) true
        (opening ++ (between (before ++ ',' :: after) parts ++ (closing ++ ']' :: rest))) =
      .ok (items, rest) := by
  cases beside with
  | nil =>
      -- Nothing parts the gap behind the opening bracket from the one before the closing one.
      have ended : elements read (bound + 1) true ((opening ++ closing) ++ ']' :: rest) =
          .ok ([], rest) := elements_end (blankOpening.append blankClosing) bound true rest
      rwa [List.append_assoc] at ended
  | cons back onward =>
      cases bound with
      | zero => exact absurd enough (Nat.not_succ_le_zero _)
      | succ bound =>
          have others := elements_later onward blankBefore blankAfter blankClosing
            (Nat.le_of_succ_le_succ enough) rest
          rw [between_cons, List.append_assoc]
          exact back.elements_cons (back.nextElement_eq (.opening blankOpening) _) others

/-- The elements of a list are read back up to its end, within a bound that any text gives. -/
theorem elements_inside (beside : List.Forall₂ (ReadsBack read) parts items)
    {opening closing : List Char} (blankOpening : IsGap opening) (blankBefore : IsGap before)
    (blankAfter : IsGap after) (blankClosing : IsGap closing) (rest : List Char) :
    let inside := opening ++ (between (before ++ ',' :: after) parts ++ (closing ++ ']' :: rest))
    elements read (inside.length + 1) true inside = .ok (items, rest) := by
  have filled : ∀ part ∈ parts, part ≠ [] := by
    clear blankOpening blankBefore blankAfter blankClosing
    induction beside with
    | nil => exact nofun
    | cons back _ ih => exact List.forall_mem_cons.mpr ⟨back.ne_nil, ih⟩
  have counted := length_le_length_between (before ++ ',' :: after) filled
  refine elements_between beside blankOpening blankBefore blankAfter blankClosing ?_ rest
  simp only [List.length_append]
  omega

theorem readsBack_list (beside : List.Forall₂ (ReadsBack read) parts items)
    {opening closing : List Char} (blankOpening : IsGap opening) (blankBefore : IsGap before)
    (blankAfter : IsGap after) (blankClosing : IsGap closing) :
    ReadsBack (listValue read)
      ('[' :: (opening ++ (between (before ++ ',' :: after) parts ++ (closing ++ [']']))))
      items where
  solid := ⟨'[', _, rfl, rfl, by decide⟩
  reads gap rest blank := by
    have inside := elements_inside beside blankOpening blankBefore blankAfter blankClosing rest
    simp only [listValue, List.cons_append, List.append_assoc, List.nil_append,
      skipSpaces_gap_cons blank (show isSpace '[' = false from rfl), if_true]
    exact inside

theorem readsBack_spacedList (beside : List.Forall₂ (ReadsBack read) parts items) (level : Nat) :
    ReadsBack (listValue read) (spacedList level parts) items := by
  cases beside with
  | nil => exact readsBack_list .nil isGap_nil isGap_nil isGap_nil isGap_nil
  | cons back onward =>
      have list := readsBack_list (.cons back onward) (isGap_newLine (level + 1)) isGap_nil
        (isGap_newLine (level + 1)) (isGap_newLine level)
      simpa only [spacedList, List.append_assoc, List.nil_append] using list

theorem readsBack_map {ι : Type} {items : List ι} {write : ι → List Char} {meaning : ι → α}
    (each : ∀ item ∈ items, ReadsBack read (write item) (meaning item)) :
    List.Forall₂ (ReadsBack read) (items.map write) (items.map meaning) :=
  List.forall₂_map_left_iff.mpr (List.forall₂_map_right_iff.mpr (List.forall₂_same.mpr each))

end Elements

/-! ## Objects -/

def memberWith (gap : List Char) (key : String) (written : List Char) : List Char :=
  writeText key ++ ':' :: (gap ++ written)

section Members

variable {σ : Type} {step : σ → String → Except Fault (Reader σ)}

/-- Written members, and the states that a reader of members goes through on them. -/
inductive Gathers (step : σ → String → Except Fault (Reader σ)) (gap : List Char) :
    σ → List (List Char) → σ → Prop where
  | done (state : σ) : Gathers step gap state [] state
  | member {state next last : σ} {key : String} {value : Reader σ} {written : List Char}
      {others : List (List Char)} (chosen : step state key = .ok value)
      (back : ReadsBack value written next) (onward : Gathers step gap next others last) :
      Gathers step gap state (memberWith gap key written :: others) last

variable {gap : List Char} {state next last : σ} {key : String} {value : Reader σ}
  {written : List Char} {parts : List (List Char)}

theorem Gathers.filled (gathers : Gathers step gap state parts last) :
    ∀ part ∈ parts, part ≠ [] := by
  induction gathers with
  | done state => simp
  | member chosen back onward ih =>
      intro part member
      rcases List.mem_cons.mp member with rfl | later
      · exact List.cons_ne_nil _ _
      · exact ih part later

theorem members_end {closing : List Char} (blankClosing : IsGap closing) (steps : Nat)
    (first : Bool) (state : σ) (rest : List Char) :
    members step (steps + 1) first state (closing ++ '\x7d' :: rest) = .ok (state, rest) := by
  simp only [members, nextKey,
    skipSpaces_gap_cons blankClosing (show isSpace '\x7d' = false from rfl), if_true, bind,
    Except.bind]

theorem nextKey_led {first : Bool} {lead : List Char} (led : Lead first lead) (rest : List Char) :
    nextKey first (lead ++ '"' :: rest) =
      (textAfterQuote rest).map fun (key, rest) => (some key, rest) := by
  cases led with
  | opening blank =>
      simp only [nextKey, skipSpaces_gap_cons blank (show isSpace '"' = false from rfl),
        Char.reduceEq, if_false, if_true]
      rfl
  | comma blankBefore blankAfter =>
      simp only [nextKey, List.append_assoc, List.cons_append,
        skipSpaces_gap_cons blankBefore (show isSpace ',' = false from rfl),
        skipSpaces_gap_cons blankAfter (show isSpace '"' = false from rfl), Char.reduceEq,
        Bool.false_eq_true, if_false, if_true]
      rfl

theorem nextKey_writeText {first : Bool} {lead : List Char} (led : Lead first lead) (key : String)
    (rest : List Char) :
    nextKey first (lead ++ (writeText key ++ rest)) = .ok (some key, rest) := by
  simp only [writeText, List.cons_append, List.append_assoc, List.nil_append, nextKey_led led,
    textAfterQuote_escaped, Except.map]

/-- A member whose key is found and whose value is read back changes the state by its value. -/
theorem ReadsBack.members_cons (back : ReadsBack value written next)
    (chosen : step state key = .ok value) (blank : IsGap gap) {first : Bool}
    {text rest : List Char}
    (found : nextKey first text = .ok (some key, ':' :: (gap ++ (written ++ rest)))) (steps : Nat) :
    members step (steps + 1) first state text = members step steps false next rest := by
  have separated : colon (':' :: (gap ++ (written ++ rest))) = .ok (gap ++ (written ++ rest)) := rfl
  simp only [members, found, chosen, separated, back.reads gap rest blank, bind, Except.bind]

variable {before after closing : List Char}

/-- Members behind others are gathered, each behind its comma, up to the end of the object. -/
theorem Gathers.members_later (gathers : Gathers step gap state parts last) (blank : IsGap gap)
    (blankBefore : IsGap before) (blankAfter : IsGap after) (blankClosing : IsGap closing)
    {bound : Nat} (enough : parts.length ≤ bound) (rest : List Char) :
    members step (bound + 1) false state
        (parts.flatMap ((before ++ ',' :: after) ++ ·) ++ (closing ++ '\x7d' :: rest)) =
      .ok (last, rest) := by
  -- The states are those of the gathering: `ih` starts from the state that the member leaves.
  induction gathers generalizing bound with
  | done state => exact members_end blankClosing bound false state rest
  | member chosen back onward ih =>
      cases bound with
      | zero => exact absurd enough (Nat.not_succ_le_zero _)
      | succ bound =>
          have others := ih (Nat.le_of_succ_le_succ enough)
          have found := nextKey_writeText (.comma blankBefore blankAfter)
          simp only [List.flatMap_cons, memberWith, List.append_assoc, List.cons_append]
            at others found ⊢
          rw [back.members_cons chosen blank (found _ _)]
          exact others

theorem Gathers.members_between (gathers : Gathers step gap state parts last)
    (blank : IsGap gap) {opening : List Char} (blankOpening : IsGap opening)
    (blankBefore : IsGap before) (blankAfter : IsGap after) (blankClosing : IsGap closing)
    {bound : Nat} (enough : parts.length ≤ bound) (rest : List Char) :
    members step (bound + 1) true state
        (opening ++ (between (before ++ ',' :: after) parts ++ (closing ++ '\x7d' :: rest))) =
      .ok (last, rest) := by
  cases gathers with
  | done =>
      have ended : members step (bound + 1) true state ((opening ++ closing) ++ '\x7d' :: rest) =
          .ok (state, rest) := members_end (blankOpening.append blankClosing) bound true state rest
      rwa [List.append_assoc] at ended
  | member chosen back onward =>
      cases bound with
      | zero => exact absurd enough (Nat.not_succ_le_zero _)
      | succ bound =>
          have others := onward.members_later blank blankBefore blankAfter blankClosing
            (Nat.le_of_succ_le_succ enough) rest
          rw [between_cons]
          simp only [memberWith, List.append_assoc, List.cons_append] at others ⊢
          rw [back.members_cons chosen blank (nextKey_writeText (.opening blankOpening) _ _)]
          exact others

theorem Gathers.members_spacedObject (gathers : Gathers step [' '] state parts last)
    (level : Nat) (rest : List Char) :
    ∃ inside, spacedObject level parts ++ rest = '\x7b' :: inside ∧
      members step (inside.length + 1) true state inside = .ok (last, rest) := by
  have single : IsGap [' '] := by decide
  have enough : parts.length ≤ (newLine (level + 1) ++
      (between (',' :: newLine (level + 1)) parts ++
        (newLine level ++ '\x7d' :: rest))).length := by
    have counted := length_le_length_between (',' :: newLine (level + 1)) gathers.filled
    simp only [List.length_append]
    omega
  have gathered := gathers.members_between single (isGap_newLine (level + 1)) isGap_nil
    (isGap_newLine (level + 1)) (isGap_newLine level) enough rest
  refine ⟨_, ?_, gathered⟩
  simp only [spacedObject, List.cons_append, List.append_assoc, List.nil_append]

/-- An object over several lines is read back by a reader that gathers its members and makes the
value of them. -/
theorem Gathers.readsBack_spacedObject (gathers : Gathers step [' '] state parts last)
    {α : Type} {read : Reader α} {complete : σ → Except Fault α} {result : α}
    (completed : complete last = .ok result)
    (opens : ∀ text inside, skipSpaces text = '\x7b' :: inside → read text = do
      let (held, rest) ← members step (inside.length + 1) true state inside
      let value ← complete held
      .ok (value, rest))
    (level : Nat) : ReadsBack read (spacedObject level parts) result where
  solid := ⟨'\x7b', _, rfl, rfl, by decide⟩
  reads gap rest blank := by
    obtain ⟨inside, shape, gathered⟩ := gathers.members_spacedObject level rest
    rw [shape, opens _ inside (skipSpaces_gap_cons blank rfl inside), gathered]
    simp only [bind, Except.bind, completed]

end Members

end RecordRules.Json
