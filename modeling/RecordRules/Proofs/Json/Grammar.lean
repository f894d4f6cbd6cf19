import RecordRules.Proofs.Json.NumberValue

/-!
# The grammar of JSON

A tree keeps what a JSON text says: its words, the digits of its numbers, the characters and escapes
of its texts, the items of its lists and the members of its objects in their order.  The same tree
is spelled in many ways, with other blanks between its parts and other escapes in its texts.
-/

namespace RecordRules.Json

open Text

/-! ## Results without their faults -/

theorem toOption_map {ε α β : Type} (put : α → β) (result : Except ε α) :
    (result.map put).toOption = result.toOption.map put := by
  cases result <;> rfl

theorem toOption_bind {ε α β : Type} (result : Except ε α) (next : α → Except ε β) :
    (result >>= next).toOption = result.toOption.bind fun value => (next value).toOption := by
  cases result <;> rfl

theorem eq_ok_iff {ε α : Type} {result : Except ε α} {value : α} :
    result = .ok value ↔ result.toOption = some value := by
  cases result <;> simp [Except.toOption]

theorem exists_eq_error_iff {ε α : Type} {result : Except ε α} :
    (∃ error, result = .error error) ↔ result.toOption = none := by
  cases result <;> simp [Except.toOption]

/-! ## Texts in quotes -/

/-- What stands between two quotes: a character, or the number of an escape by a number. -/
inductive Piece where
  | char (c : Char)
  | unit (code : Nat)
deriving DecidableEq, Repr

/-- The characters that may follow a backslash, with what they stand for. -/
def letterEscapes : List (Char × Char) :=
  [('"', '"'), ('\\', '\\'), ('/', '/'), ('b', '\x08'), ('f', '\x0c'), ('n', '\n'), ('r', '\r'),
    ('t', '\t')]

/-- The texts between quotes that stand for the pieces. -/
inductive Piece.Spelled : List Piece → List Char → Prop where
  | nil : Spelled [] []
  | plain {c : Char} {pieces : List Piece} {text : List Char} (notQuote : c ≠ '"')
      (notBackslash : c ≠ '\\') (visible : 0x20 ≤ c.toNat) (onward : Spelled pieces text) :
      Spelled (.char c :: pieces) (c :: text)
  | letter {letter c : Char} {pieces : List Piece} {text : List Char}
      (known : (letter, c) ∈ letterEscapes) (onward : Spelled pieces text) :
      Spelled (.char c :: pieces) ('\\' :: letter :: text)
  | unit {a b c d : Char} {code : Nat} {pieces : List Piece} {text : List Char}
      (numbered : hexUnit? a b c d = some code) (onward : Spelled pieces text) :
      Spelled (.unit code :: pieces) ('\\' :: 'u' :: a :: b :: c :: d :: text)

/-- The characters that pieces stand for.  A leading surrogate stands for a character together
with the trailing one behind it; no other surrogate stands for anything. -/
def characters? : List Piece → Option (List Char)
  | [] => some []
  | .char c :: rest => (characters? rest).map (c :: ·)
  | .unit code :: rest =>
      if isTrailing code then none
      else if isLeading code then
        match rest with
        | .unit second :: rest =>
            if isTrailing second then (characters? rest).map (pairedChar code second :: ·) else none
        | _ => none
      else (characters? rest).map (Char.ofNat code :: ·)

def decode? (pieces : List Piece) : Option String :=
  (characters? pieces).map String.ofList

/-- The pieces of a text of which nothing is escaped. -/
def plainPieces (text : String) : List Piece :=
  text.toList.map .char

theorem decode?_plainPieces (text : String) : decode? (plainPieces text) = some text := by
  have characters : ∀ letters : List Char, characters? (letters.map .char) = some letters := by
    intro letters
    induction letters with
    | nil => rfl
    | cons c letters ih => rw [List.map_cons, characters?, ih, Option.map_some]
  rw [decode?, plainPieces, characters, Option.map_some, String.ofList_toList]

/-- Whether a text needs no escapes. -/
def IsPlain (text : String) : Prop :=
  ∀ c ∈ text.toList, c ≠ '"' ∧ c ≠ '\\' ∧ 0x20 ≤ c.toNat

instance (text : String) : Decidable (IsPlain text) :=
  List.decidableBAll (fun c => c ≠ '"' ∧ c ≠ '\\' ∧ 0x20 ≤ c.toNat) text.toList

theorem IsPlain.spelled {text : String} (plain : IsPlain text) :
    Piece.Spelled (plainPieces text) text.toList := by
  unfold plainPieces
  unfold IsPlain at plain
  generalize text.toList = letters at plain ⊢
  induction letters with
  | nil => exact .nil
  | cons c letters ih =>
      obtain ⟨⟨notQuote, notBackslash, visible⟩, plain⟩ := List.forall_mem_cons.mp plain
      exact .plain notQuote notBackslash visible (ih plain)

theorem simpleEscape?_of_mem : ∀ escape ∈ letterEscapes,
    simpleEscape? escape.1 = some escape.2 ∧ escape.1 ≠ 'u' := by
  decide

namespace Piece.Spelled

variable {pieces : List Piece} {text : List Char}

/-- A spelled text is read as what its pieces stand for; it is refused if they stand for nothing. -/
theorem textBody_eq (spelled : Spelled pieces text) (rest : List Char) :
    (textBody (text ++ '"' :: rest)).toOption = (characters? pieces).map (·, rest) := by
  -- The recursion is that of the characters: a pair of surrogates is read in one step.
  induction pieces using characters?.induct generalizing text with
  | case1 =>
      cases spelled
      rfl
  | case2 c pieces ih =>
      cases spelled with
      | plain notQuote notBackslash visible onward =>
          rw [List.cons_append, textBody_plain notQuote notBackslash (by omega), consText,
            toOption_map, ih onward]
          simp [characters?, Function.comp_def]
      | letter known onward =>
          rw [List.cons_append, List.cons_append,
            textBody_simpleEscape (simpleEscape?_of_mem _ known).1, consText, toOption_map,
            ih onward]
          simp [characters?, Function.comp_def]
  | case3 code pieces trailing =>
      cases spelled with
      | unit numbered onward =>
          rw [characters?.eq_def]
          simp [textBody, numbered, trailing, Except.toOption]
  | case4 code notTrailing leading second pieces trailing ih =>
      cases spelled with
      | unit numbered onward =>
          cases onward with
          | unit numberedSecond onward =>
              simp [textBody, numbered, notTrailing, leading, numberedSecond, trailing, characters?,
                consText, toOption_map, ih onward, Function.comp_def]
  | case5 code notTrailing leading second pieces other =>
      cases spelled with
      | unit numbered onward =>
          cases onward with
          | unit numberedSecond onward =>
              simp [textBody, numbered, notTrailing, leading, numberedSecond, other, characters?,
                Except.toOption]
  | case6 code pieces notTrailing leading alone =>
      cases spelled with
      | unit numbered onward =>
          cases onward with
          | nil => simp [textBody, numbered, notTrailing, leading, characters?, Except.toOption]
          | plain notQuote notBackslash visible onward =>
              simp [textBody, numbered, notTrailing, leading, notBackslash, characters?,
                Except.toOption]
          | letter known onward =>
              have notU := (simpleEscape?_of_mem _ known).2
              simp [textBody, numbered, notTrailing, leading, notU, characters?, Except.toOption]
          | unit _ _ => exact (alone _ _ rfl).elim
  | case7 code pieces notTrailing notLeading ih =>
      cases spelled with
      | unit numbered onward =>
          rw [characters?.eq_def]
          simp [textBody, numbered, notTrailing, notLeading, consText, toOption_map, ih onward,
            Function.comp_def]

theorem textAfterQuote_eq (spelled : Spelled pieces text) (rest : List Char) :
    (textAfterQuote (text ++ '"' :: rest)).toOption = (decode? pieces).map (·, rest) := by
  simp only [textAfterQuote, decode?, toOption_map, spelled.textBody_eq rest, Option.map_map,
    Function.comp_def]

end Piece.Spelled

/-- A pair of surrogates stands for one character, and a leading one alone for none. -/
example : decode? [.unit 0xD83D, .unit 0xDE00] = some "😀" ∧ decode? [.unit 0xD83D] = none := by
  decide

/-! ## Values -/

/-- What a JSON text says. -/
inductive Tree where
  | null
  | bool (truth : Bool)
  | number (number : NumberText)
  | text (pieces : List Piece)
  | list (items : List Tree)
  | object (members : List (List Piece × Tree))

/-- The parts of a list or an object from behind its opening bracket, or from behind a part, on. -/
inductive Parts {α : Type} (closing : Char) (spelled : α → List Char → Prop) :
    (first : Bool) → List α → List Char → Prop where
  | close {first : Bool} {gap : List Char} (blank : IsGap gap) :
      Parts closing spelled first [] (gap ++ [closing])
  | part {first : Bool} {lead text others : List Char} {item : α} {items : List α}
      (led : Lead first lead) (here : spelled item text)
      (onward : Parts closing spelled false items others) :
      Parts closing spelled first (item :: items) (lead ++ (text ++ others))

/-- A key in quotes, a colon and the value, with blanks around the colon. -/
inductive MemberOf {α : Type} (spelled : α → List Char → Prop) :
    List Piece × α → List Char → Prop where
  | pair {key : List Piece} {name behind ahead text : List Char} {value : α}
      (named : Piece.Spelled key name) (blankBehind : IsGap behind) (blankAhead : IsGap ahead)
      (here : spelled value text) :
      MemberOf spelled (key, value) ('"' :: (name ++ '"' :: (behind ++ ':' :: (ahead ++ text))))

/-- The texts of a value, without blanks around it. -/
inductive Tree.Spelled : Tree → List Char → Prop where
  | null : Spelled .null ['n', 'u', 'l', 'l']
  | yes : Spelled (.bool true) ['t', 'r', 'u', 'e']
  | no : Spelled (.bool false) ['f', 'a', 'l', 's', 'e']
  | number {number : NumberText} (proper : number.Proper) : Spelled (.number number) number.write
  | text {pieces : List Piece} {body : List Char} (spelled : Piece.Spelled pieces body) :
      Spelled (.text pieces) ('"' :: (body ++ ['"']))
  | list {items : List Tree} {inside : List Char} (parts : Parts ']' Spelled true items inside) :
      Spelled (.list items) ('[' :: inside)
  | object {members : List (List Piece × Tree)} {inside : List Char}
      (parts : Parts '\x7d' (MemberOf Spelled) true members inside) :
      Spelled (.object members) ('\x7b' :: inside)

/-- Whether a JSON text consists of the value. -/
def Tree.IsTextOf (tree : Tree) (json : String) : Prop :=
  ∃ before text after, json.toList = before ++ (text ++ after) ∧ IsGap before ∧ IsGap after ∧
    tree.Spelled text

/-! ## Spelling without blanks -/

section Compact

variable {α : Type} {closing : Char} {spelled : α → List Char → Prop} {item : α} {items : List α}
  {text others : List Char}

theorem Parts.first (here : spelled item text)
    (onward : Parts closing spelled false items others) :
    Parts closing spelled true (item :: items) (text ++ others) :=
  .part (.opening isGap_nil) here onward

theorem Parts.later (here : spelled item text)
    (onward : Parts closing spelled false items others) :
    Parts closing spelled false (item :: items) (',' :: (text ++ others)) :=
  .part (.comma isGap_nil isGap_nil) here onward

theorem Parts.last (first : Bool) : Parts closing spelled first [] [closing] :=
  .close isGap_nil

theorem MemberOf.compact {key : List Piece} {name : List Char} (named : Piece.Spelled key name)
    (here : spelled item text) :
    MemberOf spelled (key, item) ('"' :: (name ++ '"' :: ':' :: text)) :=
  .pair named isGap_nil isGap_nil here

theorem MemberOf.plain {key : String} (plain : IsPlain key) (here : spelled item text) :
    MemberOf spelled (plainPieces key, item) ('"' :: (key.toList ++ '"' :: ':' :: text)) :=
  .compact plain.spelled here

theorem MemberOf.plainText {key value : String} (plainKey : IsPlain key)
    (plainValue : IsPlain value) :
    MemberOf Tree.Spelled (plainPieces key, .text (plainPieces value))
      ('"' :: (key.toList ++ '"' :: ':' :: '"' :: (value.toList ++ ['"']))) :=
  .plain plainKey (.text plainValue.spelled)

theorem Tree.Spelled.isTextOf {tree : Tree} {json : String} (spelled : tree.Spelled text)
    (consists : json.toList = text) : tree.IsTextOf json :=
  ⟨[], text, [], by rw [consists, List.nil_append, List.append_nil], isGap_nil, isGap_nil, spelled⟩

end Compact

/-! ## Where a value begins and ends -/

/-- The first character tells what kind of value a text is. -/
def Tree.OpensWith (c : Char) : Tree → Prop
  | .null => c = 'n'
  | .bool _ => c = 't' ∨ c = 'f'
  | .number _ => c = '-' ∨ isDigit c = true
  | .text _ => c = '"'
  | .list _ => c = '['
  | .object _ => c = '\x7b'

/-- The characters that a value begins with are no blanks, and do not part or close anything. -/
def Opens (c : Char) : Prop :=
  isSpace c = false ∧ c ≠ ',' ∧ c ≠ ']' ∧ c ≠ '\x7d'

instance (c : Char) : Decidable (Opens c) :=
  inferInstanceAs (Decidable (_ ∧ _))

def Begins (text : List Char) : Prop :=
  ∃ c rest, text = c :: rest ∧ Opens c

theorem opens_of_isDigit {c : Char} (digit : isDigit c = true) : Opens c := by
  refine ⟨isSpace_of_isDigit digit, ?_, ?_, ?_⟩
  all_goals
    rintro rfl
    cases digit

namespace Tree

variable {tree : Tree} {text rest : List Char} {c : Char}

theorem OpensWith.opens (opening : tree.OpensWith c) : Opens c := by
  cases tree with
  | bool truth => rcases opening with rfl | rfl <;> decide
  | number _ =>
      rcases opening with rfl | digit
      · decide
      · exact opens_of_isDigit digit
  | null | text _ | list _ | object _ =>
      obtain rfl := opening
      decide

theorem OpensWith.eq_null (opening : tree.OpensWith 'n') : tree = .null := by
  cases tree <;> simp [OpensWith, isDigit] at opening ⊢

theorem OpensWith.eq_text (opening : tree.OpensWith '"') : ∃ pieces, tree = .text pieces := by
  cases tree <;> simp [OpensWith, isDigit] at opening ⊢

theorem OpensWith.eq_list (opening : tree.OpensWith '[') : ∃ items, tree = .list items := by
  cases tree <;> simp [OpensWith, isDigit] at opening ⊢

theorem OpensWith.eq_object (opening : tree.OpensWith '\x7b') :
    ∃ members, tree = .object members := by
  cases tree <;> simp [OpensWith, isDigit] at opening ⊢

theorem Spelled.exists_eq_cons (spelled : tree.Spelled text) :
    ∃ c rest, text = c :: rest ∧ tree.OpensWith c := by
  cases spelled with
  | number proper => exact exists_write_eq_cons proper.toComplete
  | yes => exact ⟨_, _, rfl, .inl rfl⟩
  | no => exact ⟨_, _, rfl, .inr rfl⟩
  | null | text _ | list _ | object _ => exact ⟨_, _, rfl, rfl⟩

theorem Spelled.begins (spelled : tree.Spelled text) : Begins text := by
  obtain ⟨c, rest, shape, opening⟩ := spelled.exists_eq_cons
  exact ⟨c, rest, shape, opening.opens⟩

end Tree

/-- Whether a text may follow a value inside a list or an object. -/
def Follows (rest : List Char) : Prop :=
  ∀ c ∈ rest.head?, ¬ Opens c

theorem Follows.ends {rest : List Char} (follows : Follows rest) : NumberText.Ends rest := by
  intro c first
  have notOpening := follows c first
  refine ⟨Bool.eq_false_iff.mpr fun digit => notOpening (opens_of_isDigit digit), ?_, ?_, ?_⟩
  all_goals
    rintro rfl
    exact notOpening (by decide)

theorem IsGap.follows {gap : List Char} (blank : IsGap gap) {rest : List Char}
    (follows : Follows rest) : Follows (gap ++ rest) := by
  cases gap with
  | nil => exact follows
  | cons c gap =>
      rintro c ⟨⟩ ⟨solid, -⟩
      rw [blank c List.mem_cons_self] at solid
      cases solid

theorem Lead.length_pos {first : Bool} {lead : List Char} (led : Lead first lead) :
    0 < lead.length + first.toNat := by
  cases led with
  | opening blank => exact Nat.succ_pos _
  | comma blankBefore blankAfter =>
      rw [List.length_append, List.length_cons]
      omega

namespace Parts

variable {α : Type} {closing : Char} {spelled meant : α → List Char → Prop} {first : Bool}
  {items : List α} {inside : List Char}

/-- A step of a bound for every part, and one for the closing bracket, do not exceed the text. -/
theorem length_lt (parts : Parts closing spelled first items inside) :
    items.length < inside.length + first.toNat := by
  induction parts with
  | close blank =>
      rw [List.length_append]
      exact Nat.lt_of_lt_of_le (Nat.succ_pos _) (Nat.le_add_right _ _)
  | part led here onward ih =>
      have counted := led.length_pos
      simp only [List.length_append, List.length_cons, Bool.toNat_false] at ih ⊢
      omega

theorem length_le (parts : Parts closing spelled true items inside) (rest : List Char) :
    items.length ≤ (inside ++ rest).length := by
  rw [List.length_append]
  exact Nat.le_trans (Nat.le_of_lt_succ parts.length_lt) (Nat.le_add_right _ _)

theorem follows (parts : Parts closing spelled false items inside) (closes : ¬ Opens closing)
    (rest : List Char) : Follows (inside ++ rest) := by
  cases parts with
  | close blank =>
      rw [List.append_assoc]
      apply blank.follows
      rintro c ⟨⟩
      exact closes
  | part led here onward =>
      cases led with
      | comma blankBefore blankAfter =>
          simp only [List.append_assoc, List.cons_append]
          apply blankBefore.follows
          rintro c ⟨⟩
          decide

/-- What holds of every spelling that is no longer than the text holds of the parts. -/
theorem imp (parts : Parts closing spelled first items inside)
    (each : ∀ item text, text.length ≤ inside.length → spelled item text → meant item text) :
    Parts closing meant first items inside := by
  induction parts with
  | close blank => exact .close blank
  | part led here onward ih =>
      refine .part led (each _ _ ?_ here) (ih fun item text within => each item text ?_)
      all_goals
        simp only [List.length_append]
        omega

end Parts

/-- What holds of every spelling that is no longer than a member holds of the member's value. -/
theorem MemberOf.imp {α : Type} {spelled meant : α → List Char → Prop} {member : List Piece × α}
    {text : List Char} (pair : MemberOf spelled member text)
    (each : ∀ value spelling, spelling.length ≤ text.length → spelled value spelling →
      meant value spelling) : MemberOf meant member text := by
  cases pair with
  | pair named blankBehind blankAhead here =>
      refine .pair named blankBehind blankAhead (each _ _ ?_ here)
      simp only [List.length_append, List.length_cons]
      omega

end RecordRules.Json
