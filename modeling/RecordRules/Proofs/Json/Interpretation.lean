import RecordRules.Proofs.Json.PassedOver
import RecordRules.Rule.Reader

/-!
# Readers as functions of what a text says

A reader interprets trees by a function if it makes of every spelling of a tree what the function
makes of the tree, and refuses the spelling if the function makes nothing of it.  What is read is
then the same for all spellings of a tree.  Which fault a refused text has is left out.
-/

namespace RecordRules.Json

/-- Whether a reader takes a text off the front for the result, or refuses it if there is none. -/
def ReadsAs {α : Type} (read : Reader α) (text : List Char) (result : Option α) : Prop :=
  ∀ gap rest, IsGap gap → Follows rest →
    (read (gap ++ (text ++ rest))).toOption = result.map (·, rest)

/-- Whether a reader makes of every value what the function makes of it. -/
def Interprets {α : Type} (read : Reader α) (meaning : Tree → Option α) : Prop :=
  ∀ tree text, tree.Spelled text → ReadsAs read text (meaning tree)

/-! ## Texts and values that may be `null` -/

namespace Tree

variable {α : Type}

def text? : Tree → Option String
  | .text pieces => decode? pieces
  | _ => none

/-- What is made of a value other than `null`; `null` is nothing. -/
def optional? (meaning : Tree → Option α) : Tree → Option (Option α)
  | .null => some none
  | tree => (meaning tree).map some

def items? (meaning : Tree → Option α) : Tree → Option (List α)
  | .list items => items.mapM meaning
  | _ => none

end Tree

section Values

variable {α : Type} {read : Reader α} {meaning : Tree → Option α}

theorem interprets_textValue : Interprets textValue Tree.text? := by
  intro tree text spelled gap rest blank follows
  obtain ⟨c, others, shape, opening⟩ := spelled.exists_eq_cons
  by_cases quoted : c = '"'
  · obtain ⟨pieces, rfl⟩ := Tree.OpensWith.eq_text (quoted ▸ opening)
    cases spelled with
    | text body =>
        simp only [textValue, List.cons_append, List.append_assoc, List.nil_append,
          skipSpaces_gap_cons blank (show isSpace '"' = false from rfl), if_true,
          body.textAfterQuote_eq, Tree.text?]
  · have nothing : tree.text? = none := by
      cases tree with
      | text pieces => exact absurd opening quoted
      | _ => rfl
    rw [nothing, shape]
    simp only [textValue, List.cons_append, skipSpaces_gap_cons blank opening.opens.1,
      if_neg quoted]
    rfl

theorem interprets_optionalValue (inner : Interprets read meaning) :
    Interprets (optionalValue read) (Tree.optional? meaning) := by
  intro tree text spelled gap rest blank follows
  obtain ⟨c, others, shape, opening⟩ := spelled.exists_eq_cons
  by_cases word : c = 'n'
  · obtain rfl := Tree.OpensWith.eq_null (word ▸ opening)
    cases spelled with
    | null =>
        rw [optionalValue, List.cons_append, skipSpaces_gap_cons blank rfl]
        rfl
  · have wrapped : tree.optional? meaning = (meaning tree).map some := by
      cases tree with
      | null => exact absurd opening word
      | _ => rfl
    have read := inner tree text spelled [] rest isGap_nil follows
    rw [shape, List.nil_append, List.cons_append] at read
    rw [wrapped, shape, optionalValue, List.cons_append,
      skipSpaces_gap_cons blank opening.opens.1]
    split
    · next same => exact absurd (List.cons.inj same).1 word
    · rw [toOption_bind, read]
      cases meaning tree <;> rfl

/-! ## Lists -/

/-- The items of a list are read one after another up to its end, or one of them is refused. -/
theorem elements_parts (inner : Interprets read meaning) {first : Bool} {items : List Tree}
    {inside : List Char} (parts : Parts ']' Tree.Spelled first items inside) {steps : Nat}
    (enough : items.length ≤ steps) (rest : List Char) :
    (elements read (steps + 1) first (inside ++ rest)).toOption =
      (items.mapM meaning).map (·, rest) := by
  -- Each item takes one step of the bound, and what is behind it does not continue it.
  induction parts generalizing steps with
  | close blank =>
      rw [List.append_assoc]
      exact congrArg Except.toOption (elements_end blank steps _ rest)
  | @part first lead text others item items led here onward ih =>
      cases steps with
      | zero => exact absurd enough (Nat.not_succ_le_zero _)
      | succ steps =>
          have behind := ih (Nat.le_of_succ_le_succ enough)
          have value := inner item text here [] _ isGap_nil (onward.follows (by decide) rest)
          obtain ⟨c, tail, shape, solid, -, notClosing, -⟩ := here.begins
          have found := nextElement_led led solid notClosing (tail ++ (others ++ rest))
          rw [List.nil_append] at value
          rw [← List.cons_append, ← shape] at found
          rw [List.append_assoc, List.append_assoc, elements, found, List.mapM_cons]
          change (read (text ++ (others ++ rest)) >>= _).toOption = _
          rw [toOption_bind, value]
          cases meaning item with
          | none => rfl
          | some value =>
              simp only [Option.map_some, Option.bind_some, toOption_bind, behind]
              cases items.mapM meaning <;> rfl

theorem interprets_listValue (inner : Interprets read meaning) :
    Interprets (listValue read) (Tree.items? meaning) := by
  intro tree text spelled gap rest blank follows
  obtain ⟨c, others, shape, opening⟩ := spelled.exists_eq_cons
  by_cases bracket : c = '['
  · obtain ⟨items, rfl⟩ := Tree.OpensWith.eq_list (bracket ▸ opening)
    cases spelled with
    | list parts =>
        simp only [listValue, List.cons_append,
          skipSpaces_gap_cons blank (show isSpace '[' = false from rfl), if_true]
        exact elements_parts inner parts (parts.length_le rest) rest
  · have nothing : tree.items? meaning = none := by
      cases tree with
      | list items => exact absurd opening bracket
      | _ => rfl
    rw [nothing, shape]
    simp only [listValue, List.cons_append, skipSpaces_gap_cons blank opening.opens.1,
      if_neg bracket]
    rfl

end Values

/-! ## Objects -/

section Members

variable {σ : Type}

/-- What a member makes of the state before it: its key says how its value is taken. -/
def takeMember (take : σ → String → Tree → Option σ) (held : Option σ)
    (member : List Piece × Tree) : Option σ :=
  held.bind fun state => (decode? member.1).bind fun key => take state key member.2

/-- What the members of an object make of a state, one after another. -/
def takeMembers (take : σ → String → Tree → Option σ) (state : σ)
    (members : List (List Piece × Tree)) : Option σ :=
  members.foldl (takeMember take) (some state)

/-- Whether the members of an object are read as the function takes them. -/
def InterpretsMembers (step : σ → String → Except Fault (Reader σ))
    (take : σ → String → Tree → Option σ) : Prop :=
  ∀ state key, Interprets (fun text => step state key >>= (· text)) (take state key)

theorem foldl_takeMember_none (take : σ → String → Tree → Option σ)
    (members : List (List Piece × Tree)) : members.foldl (takeMember take) none = none := by
  induction members with
  | nil => rfl
  | cons member members ih => exact ih

theorem takeMembers_cons (take : σ → String → Tree → Option σ) (state : σ)
    (member : List Piece × Tree) (members : List (List Piece × Tree)) :
    takeMembers take state (member :: members) =
      (takeMember take (some state) member).bind (takeMembers take · members) := by
  rw [takeMembers, List.foldl_cons]
  cases takeMember take (some state) member with
  | none => exact foldl_takeMember_none take members
  | some next => rfl

/-- The members of an object are taken one after another, or one of them is refused. -/
theorem members_parts {step : σ → String → Except Fault (Reader σ)}
    {take : σ → String → Tree → Option σ} (inner : InterpretsMembers step take) {first : Bool}
    {members : List (List Piece × Tree)} {inside : List Char}
    (parts : Parts '\x7d' (MemberOf Tree.Spelled) first members inside) {steps : Nat}
    (enough : members.length ≤ steps) (state : σ) (rest : List Char) :
    (Json.members step (steps + 1) first state (inside ++ rest)).toOption =
      (takeMembers take state members).map (·, rest) := by
  induction parts generalizing steps state with
  | close blank =>
      rw [List.append_assoc]
      exact congrArg Except.toOption (members_end blank steps _ state rest)
  | @part first lead text others member members led here onward ih =>
      cases steps with
      | zero => exact absurd enough (Nat.not_succ_le_zero _)
      | succ steps =>
          have behind := ih (Nat.le_of_succ_le_succ enough)
          have follows := onward.follows (by decide) rest
          cases here with
          | @pair key name behindKey ahead text value named blankBehind blankAhead here =>
              have found := nextKey_led led
                (name ++ '"' :: (behindKey ++ ':' :: (ahead ++ (text ++ (others ++ rest)))))
              have separated := colon_gap blankBehind (ahead ++ (text ++ (others ++ rest)))
              simp only [List.append_assoc, List.cons_append]
              rw [Json.members, toOption_bind, found, toOption_map, named.textAfterQuote_eq,
                takeMembers_cons, takeMember, Option.bind_some]
              cases decoded : decode? key with
              | none => rfl
              | some key =>
                  have taken := inner state key value text here ahead _ blankAhead follows
                  -- The colon stands between the choice of a reader and its use; `taken` is of both.
                  simp only [toOption_bind] at taken
                  simp only [Option.map_some, Option.bind_some, separated, toOption_bind]
                  change (step state key).toOption.bind (fun value =>
                    (value (ahead ++ (text ++ (others ++ rest)))).toOption.bind _) = _
                  rw [← Option.bind_assoc, taken]
                  cases take state key value with
                  | none => rfl
                  | some next => exact behind next

theorem object_parts {step : σ → String → Except Fault (Reader σ)}
    {take : σ → String → Tree → Option σ} (inner : InterpretsMembers step take)
    {members : List (List Piece × Tree)} {inside : List Char}
    (parts : Parts '\x7d' (MemberOf Tree.Spelled) true members inside) (state : σ) {α : Type}
    (complete : σ → Except Fault α) (rest : List Char) :
    (do
      let (held, rest) ← Json.members step ((inside ++ rest).length + 1) true state (inside ++ rest)
      let value ← complete held
      .ok (value, rest)).toOption =
      ((takeMembers take state members).bind fun held => (complete held).toOption).map
        (·, rest) := by
  rw [toOption_bind, members_parts inner parts (parts.length_le rest) state rest]
  cases takeMembers take state members with
  | none => rfl
  | some held =>
      simp only [Option.map_some, Option.bind_some, toOption_bind]
      cases complete held <;> rfl

end Members

end RecordRules.Json
