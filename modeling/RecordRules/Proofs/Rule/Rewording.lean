import Mathlib.Logic.Relation
import RecordRules.Proofs.Rule.Interpretation

/-!
# What the reader of rules does not heed

The order of members does not matter to what is read of a rule, nor do members that are not known,
an empty list of criteria or an argument that is `null`.  This is so for the members of the rule and
for those of its criteria, in any text that spells them.  A known member that is repeated is always
refused, and so is a key with a surrogate that has no partner, whether or not it would be known.
-/

namespace RecordRules.Rule

open Json

/-- Whether an object stands among the criteria of a rule. -/
def HasCriterion (members criterion : List (List Piece × Tree)) : Prop :=
  ∃ key items, (key, Tree.list items) ∈ members ∧ decode? key = some criteriaMember.name ∧
    Tree.object criterion ∈ items

/-- One change that should not matter, to the members of a rule or to those of a criterion. -/
inductive Reworded : List (List Piece × Tree) → List (List Piece × Tree) → Prop where
  | rule {members others : List (List Piece × Tree)} (reworded : form.Reworded members others) :
      Reworded members others
  | criterion {front back criterion other : List (List Piece × Tree)} {key : List Piece}
      {before after : List Tree} (named : decode? key = some criteriaMember.name)
      (reworded : Criterion.form.Reworded criterion other) :
      Reworded (front ++ (key, .list (before ++ .object criterion :: after)) :: back)
        (front ++ (key, .list (before ++ .object other :: after)) :: back)

/-- Whether a known member stands twice in a rule or in one of its criteria. -/
def Repeats (members : List (List Piece × Tree)) : Prop :=
  form.Repeats members ∨
    ∃ criterion, HasCriterion members criterion ∧ Criterion.form.Repeats criterion

/-- Whether a key of a rule or of one of its criteria stands for no text. -/
def HasUndecodedKey (members : List (List Piece × Tree)) : Prop :=
  (∃ member ∈ members, decode? member.1 = none) ∨
    ∃ criterion, HasCriterion members criterion ∧ ∃ member ∈ criterion, decode? member.1 = none

variable {members others criterion other : List (List Piece × Tree)}

theorem criteriaMember_mem : criteriaMember ∈ form.known :=
  form.among

/-- No rule is made of members among whose criteria is an object of which nothing is made. -/
theorem HasCriterion.make?_eq_none (has : HasCriterion members criterion)
    (nothing : Criterion.form.make? criterion = none) : form.make? members = none := by
  obtain ⟨key, items, inside, named, among⟩ := has
  refine ObjectForm.make?_of_meaningless criteriaMember_mem named inside ?_
  obtain ⟨before, after, rfl⟩ := List.append_of_mem among
  have refused : Criterion.ofTree? (.object criterion) = none := nothing
  change (before ++ .object criterion :: after).mapM Criterion.ofTree? = none
  rw [List.mapM_append, List.mapM_cons, refused]
  cases before.mapM Criterion.ofTree? <;> rfl

theorem Reworded.make?_eq (reworded : Reworded members others) :
    form.make? members = form.make? others := by
  cases reworded with
  | rule reworded => exact reworded.make?_eq
  | @criterion front back criterion other key before after named reworded =>
      refine ObjectForm.make?_replaced criteriaMember_mem named ?_ front back
      have same : Criterion.ofTree? (.object criterion) = Criterion.ofTree? (.object other) :=
        reworded.make?_eq
      change (before ++ .object criterion :: after).mapM Criterion.ofTree? =
        (before ++ .object other :: after).mapM Criterion.ofTree?
      simp only [List.mapM_append, List.mapM_cons, same]

/-- Any number of changes that should not matter, made or undone, do not. -/
theorem make?_eq_of_eqvGen (reworded : Relation.EqvGen Reworded members others) :
    form.make? members = form.make? others := by
  induction reworded with
  | rel _ _ step => exact step.make?_eq
  | refl _ => rfl
  | symm _ _ _ ih => exact ih.symm
  | trans _ _ _ _ _ first second => exact first.trans second

theorem Repeats.make?_eq_none (repeats : Repeats members) : form.make? members = none := by
  rcases repeats with outer | ⟨criterion, has, inner⟩
  · exact outer.make?_eq
  · exact has.make?_eq_none inner.make?_eq

theorem HasUndecodedKey.make?_eq_none (undecoded : HasUndecodedKey members) :
    form.make? members = none := by
  rcases undecoded with ⟨member, inside, lost⟩ | ⟨criterion, has, member, inside, lost⟩
  · exact ObjectForm.make?_of_undecoded inside lost
  · exact has.make?_eq_none (ObjectForm.make?_of_undecoded inside lost)

/-- The same rule is read of all texts of an object and of all that comes of it by changes that
should not matter.  None is read if a known member is repeated or a key stands for no text. -/
theorem ofJson_reworded_and_refused :
    (∀ (members others : List (List Piece × Tree)) (json reworded : String),
      (Tree.object members).IsTextOf json → (Tree.object others).IsTextOf reworded →
      Relation.EqvGen Reworded members others →
      ∀ rule, ofJson json = .ok rule ↔ ofJson reworded = .ok rule) ∧
    ∀ (members : List (List Piece × Tree)) (json : String), (Tree.object members).IsTextOf json →
      Repeats members ∨ HasUndecodedKey members → ∃ error, ofJson json = .error error := by
  constructor
  · intro members others json reworded spelled spelledOther changed rule
    rw [eq_ok_iff, eq_ok_iff, toOption_ofJson spelled, toOption_ofJson spelledOther,
      make?_eq_of_eqvGen changed]
  · intro members json spelled refused
    rw [exists_eq_error_iff, toOption_ofJson spelled]
    exact refused.elim Repeats.make?_eq_none HasUndecodedKey.make?_eq_none

/-- The order of members, an argument that is `null` and a note change nothing; a repeated name
does. -/
theorem ofJson_reworded_and_refused_of_criterion :
    let name := (plainPieces "name", Tree.text (plainPieces "a"))
    let path := (plainPieces "property_path", Tree.text (plainPieces "P"))
    let operator := (plainPieces "operator", Tree.text (plainPieces "O"))
    let value := (plainPieces "value", Tree.null)
    let note := (plainPieces "note", Tree.list [.null])
    let criteria (criterion : List (List Piece × Tree)) :=
      (plainPieces "criteria", Tree.list [.object criterion])
    let again := (.unit 0x6E :: plainPieces "ame", Tree.null)
    let json := "\x7b\"name\":\"a\",\"criteria\":[" ++
      "\x7b\"property_path\":\"P\",\"operator\":\"O\"\x7d]\x7d"
    let reworded := "\x7b\"note\":[null],\"criteria\":[" ++
      "\x7b\"operator\":\"O\",\"value\":null,\"property_path\":\"P\"\x7d],\"name\":\"a\"\x7d"
    let repeated := "\x7b\"name\":\"a\",\"\\u006eame\":null\x7d"
    (Tree.object [name, criteria [path, operator]]).IsTextOf json ∧
      (Tree.object [note, criteria [operator, value, path], name]).IsTextOf reworded ∧
      Relation.EqvGen Reworded [name, criteria [path, operator]]
        [note, criteria [operator, value, path], name] ∧
      (∀ rule, ofJson json = .ok rule ↔ ofJson reworded = .ok rule) ∧
      (Tree.object [name, again]).IsTextOf repeated ∧ Repeats [name, again] ∧
      ∃ error, ofJson repeated = .error error := by
  intro name path operator value note criteria again json reworded repeated
  have spelledName : MemberOf Tree.Spelled name _ := .plainText (by decide) (by decide)
  have spelledPath : MemberOf Tree.Spelled path _ := .plainText (by decide) (by decide)
  have spelledOperator : MemberOf Tree.Spelled operator _ := .plainText (by decide) (by decide)
  have spelledValue : MemberOf Tree.Spelled value _ := .plain (by decide) .null
  have spelledNote : MemberOf Tree.Spelled note _ :=
    .plain (by decide) (.list (.first .null (.last false)))
  have spelledCriteria {criterion : List (List Piece × Tree)} {text : List Char}
      (here : Parts '\x7d' (MemberOf Tree.Spelled) true criterion text) :
      MemberOf Tree.Spelled (criteria criterion) _ :=
    .plain (by decide) (.list (.first (.object here) (.last false)))
  have spelledAgain : MemberOf Tree.Spelled again _ :=
    .compact (.unit (a := '0') (b := '0') (c := '6') (d := 'e') rfl (IsPlain.spelled (by decide)))
      .null
  have spelled : (Tree.object [name, criteria [path, operator]]).IsTextOf json := by
    refine (Tree.Spelled.object (.first spelledName (.later (spelledCriteria
      (.first spelledPath (.later spelledOperator (.last false)))) (.last false)))).isTextOf ?_
    simp only [json]
    decide
  have spelledOther : (Tree.object [note, criteria [operator, value, path], name]).IsTextOf
      reworded := by
    refine (Tree.Spelled.object (.first spelledNote (.later (spelledCriteria
      (.first spelledOperator (.later spelledValue (.later spelledPath (.last false)))))
      (.later spelledName (.last false))))).isTextOf ?_
    simp only [reworded]
    decide
  have spelledTwice : (Tree.object [name, again]).IsTextOf repeated := by
    refine (Tree.Spelled.object (.first spelledName (.later spelledAgain
      (.last false)))).isTextOf ?_
    simp only [repeated]
    decide
  have permuted : Reworded [name, criteria [path, operator]] [name, criteria [operator, path]] :=
    @Reworded.criterion [name] [] _ _ _ [] [] (decode?_plainPieces _) (.permuted (.swap _ _ _))
  have assumed : Reworded [name, criteria [operator, path]]
      [name, criteria [operator, value, path]] := by
    refine @Reworded.criterion [name] [] _ _ _ [] [] (decode?_plainPieces _) ?_
    refine @ObjectForm.Reworded.assumed _ _ Criterion.form [operator] [path] _
      (decode?_plainPieces _) ?_
    simp [operator, path, decode?_plainPieces, Criterion.form, Criterion.valueMember]
  have turned : Reworded [name, criteria [operator, value, path]]
      [criteria [operator, value, path], name] :=
    .rule (.permuted (.swap _ _ _))
  have noted : Reworded [criteria [operator, value, path], name]
      [note, criteria [operator, value, path], name] := by
    refine .rule (@ObjectForm.Reworded.unknown _ _ form [] _ _ _ _ (decode?_plainPieces "note") ?_)
    decide
  have changed : Relation.EqvGen Reworded [name, criteria [path, operator]]
      [note, criteria [operator, value, path], name] := by
    refine .trans _ _ _ (.rel _ _ permuted) ?_
    refine .trans _ _ _ (.rel _ _ assumed) ?_
    exact .trans _ _ _ (.rel _ _ turned) (.rel _ _ noted)
  have twice : Repeats [name, again] := by
    refine .inl ⟨"name", by decide, name, again, .refl _, decode?_plainPieces "name", ?_⟩
    decide
  obtain ⟨same, refuses⟩ := ofJson_reworded_and_refused
  exact ⟨spelled, spelledOther, changed, same _ _ json reworded spelled spelledOther changed,
    spelledTwice, twice, refuses _ repeated spelledTwice (.inl twice)⟩

/-- A key that stands for no text is refused, although nothing would be made of its member. -/
theorem ofJson_refuses_other_member_with_lone_surrogate :
    let name := (plainPieces "name", Tree.text (plainPieces "a"))
    let other := ([Piece.unit 0xD800], Tree.null)
    let json := "\x7b\"name\":\"a\"\x7d"
    let longer := "\x7b\"name\":\"a\",\"\\ud800\":null\x7d"
    (Tree.object [name]).IsTextOf json ∧ (Tree.object [name, other]).IsTextOf longer ∧
      (∀ known ∈ form.names, decode? other.1 ≠ some known) ∧ ofJson json = .ok ⟨"a", []⟩ ∧
      ∃ error, ofJson longer = .error error := by
  intro name other json longer
  have spelledName : MemberOf Tree.Spelled name _ := .plainText (by decide) (by decide)
  have spelledOther : MemberOf Tree.Spelled other _ :=
    .compact (.unit (a := 'd') (b := '8') (c := '0') (d := '0') rfl .nil) .null
  have spelled : (Tree.object [name]).IsTextOf json := by
    refine (Tree.Spelled.object (.first spelledName (.last false))).isTextOf ?_
    simp only [json]
    decide
  have spelledLonger : (Tree.object [name, other]).IsTextOf longer := by
    refine (Tree.Spelled.object (.first spelledName (.later spelledOther
      (.last false)))).isTextOf ?_
    simp only [longer]
    decide
  have undecoded : decode? other.1 = none := rfl
  refine ⟨spelled, spelledLonger, by simp [undecoded], ?_, ?_⟩
  · rw [eq_ok_iff, toOption_ofJson spelled]
    rfl
  · rw [exists_eq_error_iff, toOption_ofJson spelledLonger]
    exact HasUndecodedKey.make?_eq_none (.inl ⟨other, by simp, undecoded⟩)

end RecordRules.Rule
