import RecordRules.Proofs.Json.KnownMembers

/-!
# Rules as functions of what a text says

The reader of rules makes of an object what its members make one after another: a known member fills
a place that is still free, and any other member leaves everything as it is.  Criteria are read in
the same way, or as lists of their values.
-/

namespace RecordRules

open Json

/-! ## Members -/

/-- A member that is taken once fills its place. -/
theorem interprets_takeOnce {σ : Type} (member : KnownMember σ) {read : Reader member.Value}
    (inner : Interprets read member.meaning) (name : String) (state : σ) :
    Interprets
      (fun text =>
        takeOnce name (member.place.held state) read (member.place.put state) >>= (· text))
      fun tree => member.place.fill state (member.meaning tree) := by
  intro tree text spelled gap rest blank follows
  unfold takeOnce Place.fill
  cases member.place.held state with
  | some _ => rfl
  | none =>
      change ((read (gap ++ (text ++ rest))).map _).toOption =
        ((member.meaning tree).map (member.place.put state)).map (·, rest)
      rw [toOption_map, inner tree text spelled gap rest blank follows]
      cases member.meaning tree <;> rfl

theorem interprets_passOver {σ : Type} (state : σ) :
    Interprets (fun text => passOver state >>= (· text)) fun _ => some state := by
  intro tree text spelled gap rest blank follows
  change ((skipValue (gap ++ (text ++ rest))).map _).toOption = _
  rw [spelled.passesOver_skipValue gap rest blank follows]
  rfl

/-! ## Places of a list -/

section Places

variable {α : Type} {value : Reader α} {meaning : Tree → Option α} {gap inside rest : List Char}

theorem requiredPlace_close (missing : Fault) (first : Bool) (blank : IsGap gap) :
    (requiredPlace missing first value (gap ++ ']' :: rest)).toOption = none := by
  simp only [requiredPlace, nextElement_end blank]
  rfl

theorem requiredPlace_part (inner : Interprets value meaning) (missing : Fault) {first : Bool}
    {lead text : List Char} (led : Lead first lead) {item : Tree} (here : item.Spelled text)
    (follows : Follows rest) :
    (requiredPlace missing first value (lead ++ (text ++ rest))).toOption =
      (meaning item).map (·, rest) := by
  have read := inner item text here [] rest isGap_nil follows
  obtain ⟨c, tail, rfl, solid, -, notClosing, -⟩ := here.begins
  simp only [requiredPlace, List.cons_append, nextElement_led led solid notClosing]
  exact read

theorem endList_parts {items : List Tree} (parts : Parts ']' Tree.Spelled false items inside)
    (rest : List Char) :
    (endList (inside ++ rest)).toOption = if items.isEmpty then some rest else none := by
  cases parts with
  | close blank =>
      rw [List.append_assoc, endList, skipSpaces_gap_append blank]
      rfl
  | part led here onward =>
      cases led with
      | comma blankBefore blankAfter =>
          simp only [endList, List.append_assoc, List.cons_append,
            skipSpaces_gap_cons blankBefore (show isSpace ',' = false from rfl), Char.reduceEq,
            if_false, if_true]
          split <;> rfl

/-- What the last place of a list holds, which may be left off; nothing may stand behind it. -/
def lastOf? (absent : α) (meaning : Tree → Option α) : List Tree → Option α
  | [] => some absent
  | [item] => meaning item
  | _ => none

theorem lastPlace_parts (inner : Interprets value meaning) (absent : α) {items : List Tree}
    (parts : Parts ']' Tree.Spelled false items inside) (rest : List Char) :
    (lastPlace absent value (inside ++ rest)).toOption =
      (lastOf? absent meaning items).map (·, rest) := by
  cases parts with
  | close blank =>
      rw [List.append_assoc]
      simp only [lastPlace, List.singleton_append, nextElement_end blank]
      rfl
  | @part _ lead text others item items led here onward =>
      have follows := onward.follows (by decide) rest
      have read := inner item text here [] (others ++ rest) isGap_nil follows
      have ended := endList_parts onward rest
      obtain ⟨c, tail, rfl, solid, -, notClosing, -⟩ := here.begins
      simp only [List.append_assoc, List.cons_append, List.nil_append] at read ⊢
      simp only [lastPlace, nextElement_led led solid notClosing]
      change (value (c :: (tail ++ (others ++ rest))) >>= _).toOption = _
      simp only [toOption_bind, read]
      cases items with
      | nil =>
          change _ = (meaning item).map (·, rest)
          cases meaning item with
          | none => rfl
          | some value =>
              simp only [Option.map_some, Option.bind_some, ended]
              rfl
      | cons _ _ =>
          change _ = none
          cases meaning item with
          | none => rfl
          | some value =>
              simp only [Option.map_some, Option.bind_some, ended]
              rfl

end Places

/-! ## Criteria -/

namespace Criterion

def pathMember : KnownMember Gathered where
  name := "property_path"
  Value := String
  place := ⟨(·.path), fun held value => { held with path := some value }, fun _ _ => rfl⟩
  meaning := Tree.text?

def operatorMember : KnownMember Gathered where
  name := "operator"
  Value := String
  place := ⟨(·.operator), fun held value => { held with operator := some value }, fun _ _ => rfl⟩
  meaning := Tree.text?

def valueMember : KnownMember Gathered where
  name := "value"
  Value := Option String
  place := ⟨(·.value), fun held value => { held with value := some value }, fun _ _ => rfl⟩
  meaning := Tree.optional? Tree.text?

theorem pathMember_apart_operatorMember : pathMember.Apart operatorMember :=
  ⟨by decide, fun _ _ => rfl, fun _ _ => rfl, fun _ _ _ => rfl⟩

theorem pathMember_apart_valueMember : pathMember.Apart valueMember :=
  ⟨by decide, fun _ _ => rfl, fun _ _ => rfl, fun _ _ _ => rfl⟩

theorem operatorMember_apart_valueMember : operatorMember.Apart valueMember :=
  ⟨by decide, fun _ _ => rfl, fun _ _ => rfl, fun _ _ _ => rfl⟩

/-- A criterion that is an object: without a value it has no argument, as with a `null`. -/
def form : ObjectForm Gathered Criterion where
  known := [pathMember, operatorMember, valueMember]
  apart := by
    refine .cons ?_ (.cons ?_ (List.pairwise_singleton _ _))
    · exact List.forall_mem_cons.mpr ⟨pathMember_apart_operatorMember,
        List.forall_mem_singleton.mpr pathMember_apart_valueMember⟩
    · exact List.forall_mem_singleton.mpr operatorMember_apart_valueMember
  start := {}
  complete held := held.complete.toOption
  optional := valueMember
  assumed := .null
  among := by simp
  free := rfl
  assumes := by
    refine ⟨none, rfl, ?_⟩
    rintro ⟨path, operator, value⟩ free
    obtain rfl : value = none := free
    rfl

theorem interpretsMembers : InterpretsMembers step (takeKnown form.known) := by
  intro held key
  by_cases path : key = "property_path"
  · subst path
    exact interprets_takeOnce pathMember interprets_textValue _ held
  by_cases operator : key = "operator"
  · subst operator
    exact interprets_takeOnce operatorMember interprets_textValue _ held
  by_cases value : key = "value"
  · subst value
    exact interprets_takeOnce valueMember (interprets_optionalValue interprets_textValue) _ held
  have unknown : key ∉ form.known.map (·.name) := by
    simp [form, pathMember, operatorMember, valueMember, path, operator, value]
  have passed : takeKnown form.known held key = fun _ => some held :=
    funext (takeKnown_of_unknown unknown held)
  simp only [step, if_neg path, if_neg operator, if_neg value, passed]
  exact interprets_passOver held

def ofItems? : List Tree → Option Criterion
  | path :: operator :: others => do
      let path ← path.text?
      let operator ← operator.text?
      let value ← lastOf? none (Tree.optional? Tree.text?) others
      some ⟨path, operator, value⟩
  | _ => none

def ofTree? : Tree → Option Criterion
  | .list items => ofItems? items
  | .object members => form.make? members
  | _ => none

theorem placesInside_parts {items : List Tree} {inside : List Char}
    (parts : Parts ']' Tree.Spelled true items inside) (rest : List Char) :
    (placesInside (inside ++ rest)).toOption = (ofItems? items).map (·, rest) := by
  rw [placesInside, toOption_bind]
  cases parts with
  | close blank =>
      rw [List.append_assoc, List.singleton_append, requiredPlace_close _ _ blank]
      rfl
  | @part _ lead text inside path items led here onward =>
      have follows := onward.follows (by decide) rest
      rw [List.append_assoc, List.append_assoc,
        requiredPlace_part interprets_textValue _ led here follows]
      cases onward with
      | close blank =>
          have nothing : ofItems? [path] = none := rfl
          rw [nothing]
          cases path.text? with
          | none => rfl
          | some path =>
              simp only [Option.map_some, Option.bind_some, toOption_bind, List.append_assoc,
                List.singleton_append, requiredPlace_close _ _ blank]
              rfl
      | @part _ leadNext textNext others operator items ledNext hereNext onward =>
          have followsNext := onward.follows (by decide) rest
          have second := requiredPlace_part interprets_textValue (.wrongLength 1 expectedPlaces)
            ledNext hereNext followsNext
          have last := lastPlace_parts (interprets_optionalValue interprets_textValue) none onward
            rest
          simp only [ofItems?, Option.bind_eq_bind]
          cases path.text? with
          | none => rfl
          | some path =>
              simp only [Option.map_some, Option.bind_some, toOption_bind, List.append_assoc,
                second]
              cases operator.text? with
              | none => rfl
              | some operator =>
                  simp only [Option.map_some, Option.bind_some, last]
                  cases lastOf? none (Tree.optional? Tree.text?) items <;> rfl

theorem membersInside_parts {members : List (List Piece × Tree)} {inside : List Char}
    (parts : Parts '\x7d' (MemberOf Tree.Spelled) true members inside) (rest : List Char) :
    (membersInside (inside ++ rest)).toOption = (form.make? members).map (·, rest) :=
  object_parts interpretsMembers parts {} Gathered.complete rest

theorem interprets_read : Interprets read ofTree? := by
  intro tree text spelled gap rest blank follows
  obtain ⟨c, others, shape, opening⟩ := spelled.exists_eq_cons
  by_cases bracket : c = '['
  · obtain ⟨items, rfl⟩ := Tree.OpensWith.eq_list (bracket ▸ opening)
    cases spelled with
    | list parts =>
        simp only [read, List.cons_append,
          skipSpaces_gap_cons blank (show isSpace '[' = false from rfl), if_true]
        exact placesInside_parts parts rest
  by_cases brace : c = '\x7b'
  · obtain ⟨members, rfl⟩ := Tree.OpensWith.eq_object (brace ▸ opening)
    cases spelled with
    | object parts =>
        simp only [read, List.cons_append,
          skipSpaces_gap_cons blank (show isSpace '\x7b' = false from rfl), if_true,
          Char.reduceEq, if_false]
        exact membersInside_parts parts rest
  have nothing : ofTree? tree = none := by
    cases tree with
    | list items => exact absurd opening bracket
    | object members => exact absurd opening brace
    | _ => rfl
  rw [nothing, shape]
  simp only [read, List.cons_append, skipSpaces_gap_cons blank opening.opens.1, if_neg bracket,
    if_neg brace]
  rfl

end Criterion

/-! ## Rules -/

namespace Rule

def nameMember : KnownMember Gathered where
  name := "name"
  Value := String
  place := ⟨(·.name), fun held value => { held with name := some value }, fun _ _ => rfl⟩
  meaning := Tree.text?

def criteriaMember : KnownMember Gathered where
  name := "criteria"
  Value := List Criterion
  place := ⟨(·.criteria), fun held value => { held with criteria := some value }, fun _ _ => rfl⟩
  meaning := Tree.items? Criterion.ofTree?

theorem nameMember_apart_criteriaMember : nameMember.Apart criteriaMember :=
  ⟨by decide, fun _ _ => rfl, fun _ _ => rfl, fun _ _ _ => rfl⟩

/-- A rule that is an object: without criteria it has none, as with an empty list. -/
def form : ObjectForm Gathered Rule where
  known := [nameMember, criteriaMember]
  apart := .cons (List.forall_mem_singleton.mpr nameMember_apart_criteriaMember)
    (List.pairwise_singleton _ _)
  start := {}
  complete held := held.complete.toOption
  optional := criteriaMember
  assumed := .list []
  among := by simp
  free := rfl
  assumes := by
    refine ⟨[], rfl, ?_⟩
    rintro ⟨name, criteria⟩ free
    obtain rfl : criteria = none := free
    rfl

theorem interpretsMembers : InterpretsMembers step (takeKnown form.known) := by
  intro held key
  by_cases name : key = "name"
  · subst name
    exact interprets_takeOnce nameMember interprets_textValue _ held
  by_cases criteria : key = "criteria"
  · subst criteria
    exact interprets_takeOnce criteriaMember (interprets_listValue Criterion.interprets_read) _ held
  have unknown : key ∉ form.known.map (·.name) := by
    simp [form, nameMember, criteriaMember, name, criteria]
  have passed : takeKnown form.known held key = fun _ => some held :=
    funext (takeKnown_of_unknown unknown held)
  simp only [step, if_neg name, if_neg criteria, passed]
  exact interprets_passOver held

theorem membersInside_parts {members : List (List Piece × Tree)} {inside : List Char}
    (parts : Parts '\x7d' (MemberOf Tree.Spelled) true members inside) (rest : List Char) :
    (membersInside (inside ++ rest)).toOption = (form.make? members).map (·, rest) :=
  object_parts interpretsMembers parts {} Gathered.complete rest

/-- A text that is an object is read as the rule of its members, or refused if they make none. -/
theorem toOption_ofJson {members : List (List Piece × Tree)} {json : String}
    (spelled : (Tree.object members).IsTextOf json) :
    (ofJson json).toOption = form.make? members := by
  obtain ⟨before, text, after, shape, blankBefore, blankAfter, spelled⟩ := spelled
  have ended : skipSpaces after = [] := by
    rw [← List.append_nil after, skipSpaces_gap_append blankAfter]
    rfl
  cases spelled with
  | @object _ written parts =>
      have inside := membersInside_parts parts after
      have opened : read (before ++ ('\x7b' :: written ++ after)) =
          membersInside (written ++ after) := by
        simp only [read, List.cons_append,
          skipSpaces_gap_cons blankBefore (show isSpace '\x7b' = false from rfl), if_true,
          Char.reduceEq, if_false]
      have dropped (result : Except Fault Rule) :
          (result.mapError RuleError.notReadable).toOption = result.toOption := by
        cases result <;> rfl
      rw [ofJson, dropped, shape, whole, opened, toOption_bind, inside]
      cases form.make? members with
      | none => rfl
      | some rule =>
          simp only [Option.map_some, Option.bind_some, ended, List.isEmpty_nil, if_true]
          rfl

end Rule

end RecordRules
