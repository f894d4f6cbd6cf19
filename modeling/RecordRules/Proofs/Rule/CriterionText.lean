import RecordRules.Proofs.Plan.Preparation
import RecordRules.Proofs.Rule.Grammar
import RecordRules.Proofs.Text.Quoting

/-!
# Texts of criteria

The text of a criterion has its parts with blanks between.  If there are no blanks inside the
path and the operator, the first two blanks part it in one way only, and a missing argument is
told from every other by the lack of the second blank.  There are none inside paths that nothing
is found about, nor inside the names of the built-in operators.
-/

namespace RecordRules

open Text

/-- Whether the parts of a criterion before its argument have no blank inside. -/
structure Criterion.Unspaced (criterion : Criterion) : Prop where
  path : ' ' ∉ criterion.path.toList
  operator : ' ' ∉ criterion.operator.toList

def shownArgument : Option String → List Char
  | none => []
  | some value => ' ' :: quoted value.toList

theorem Criterion.toList_text (criterion : Criterion) :
    criterion.text.toList =
      criterion.path.toList ++ ' ' :: (criterion.operator.toList ++
        shownArgument criterion.value) := by
  unfold text shownArgument
  cases criterion.value with
  | none => simp [toString]
  | some value => simp [toString, quote]

theorem shownArgument_injective : Function.Injective shownArgument := by
  intro value other same
  cases value with
  | none =>
      cases other with
      | none => rfl
      | some argument => cases same
  | some value =>
      cases other with
      | none => cases same
      | some argument =>
          have texts := quoted_injective (List.cons.inj same).2
          rw [String.toList_inj.mp texts]

/-- A text without blanks ends at the first blank behind it, or where nothing is behind it. -/
theorem append_inj_of_no_blank {front back rest others : List Char} (solid : ' ' ∉ front)
    (solidToo : ' ' ∉ back) (ends : ∀ c ∈ rest.head?, c = ' ')
    (endsToo : ∀ c ∈ others.head?, c = ' ')
    (same : front ++ rest = back ++ others) : front = back ∧ rest = others := by
  have taken : ∀ {text tail : List Char}, ' ' ∉ text → (∀ c ∈ tail.head?, c = ' ') →
      (text ++ tail).takeWhile (· ≠ ' ') = text := by
    intro text tail free stops
    have kept : ∀ c ∈ text, decide (c ≠ ' ') = true := fun c member =>
      decide_eq_true (ne_of_mem_of_not_mem member free)
    rw [List.takeWhile_append_of_pos kept]
    cases tail with
    | nil => simp
    | cons c others => simp [stops c rfl]
  obtain rfl : front = back := by rw [← taken solid ends, same, taken solidToo endsToo]
  exact ⟨rfl, List.append_cancel_left same⟩

theorem head_shownArgument (value : Option String) :
    ∀ c ∈ (shownArgument value).head?, c = ' ' := by
  cases value with
  | none => nofun
  | some value =>
      rintro c ⟨⟩
      rfl

/-- Criteria without blanks inside their paths and operators have different texts. -/
theorem Criterion.Unspaced.eq_of_text_eq {criterion other : Criterion}
    (unspaced : criterion.Unspaced) (unspacedToo : other.Unspaced)
    (same : criterion.text = other.text) : criterion = other := by
  have texts := congrArg String.toList same
  rw [toList_text, toList_text] at texts
  obtain ⟨paths, behind⟩ :=
    append_inj_of_no_blank unspaced.path unspacedToo.path (by simp) (by simp) texts
  obtain ⟨operators, values⟩ :=
    append_inj_of_no_blank unspaced.operator unspacedToo.operator
      (head_shownArgument criterion.value) (head_shownArgument other.value) (List.cons.inj behind).2
  obtain ⟨path, operator, value⟩ := criterion
  obtain ⟨otherPath, otherOperator, otherValue⟩ := other
  obtain rfl : path = otherPath := String.toList_inj.mp paths
  obtain rfl : operator = otherOperator := String.toList_inj.mp operators
  obtain rfl : value = otherValue := shownArgument_injective values
  rfl

/-! ## Where there are no blanks -/

theorem blank_not_mem_intercalate {separator : List Char} {parts : List (List Char)}
    (apart : ' ' ∉ separator) (each : ∀ part ∈ parts, ' ' ∉ part) :
    ' ' ∉ separator.intercalate parts := by
  induction parts with
  | nil => simp
  | cons part rest ih =>
      have first := each part List.mem_cons_self
      have others := ih fun other member => each other (List.mem_cons_of_mem part member)
      cases rest with
      | nil => simpa using first
      | cons next rest =>
          rw [List.intercalate_cons_cons, List.mem_append, List.mem_append]
          rintro ((inFirst | inSeparator) | later)
          · exact first inFirst
          · exact apart inSeparator
          · exact others later

theorem Identifier.blank_not_mem {segment : String} (identifier : Identifier segment) :
    ' ' ∉ segment.toList := by
  intro member
  obtain ⟨low, -⟩ := identifier.code_mem ' ' member
  exact absurd low (by decide)

/-- A path that nothing is found about has no blank, as its identifiers and dots are none. -/
theorem blank_not_mem_of_no_findings {index : Nat} {path : String}
    (clear : pathFindings index path = []) : ' ' ∉ path.toList := by
  have divides := (segments_eq_iff path _).mp rfl
  have identifiers : ∀ segment ∈ segments path, Identifier segment := by
    intro segment member
    by_contra bad
    have found : Finding.badSegment index path segment ∈ pathFindings index path := by
      refine mem_pathFindings_iff.mpr (.inr ⟨?_, segment, member, ?_, rfl⟩)
      · rintro rfl
        cases clear
      · simpa [← isIdentifier_iff] using bad
    rw [clear] at found
    cases found
  rw [← divides.joined, String.toList_intercalate]
  refine blank_not_mem_intercalate (by decide) fun part member => ?_
  obtain ⟨segment, listed, rfl⟩ := List.mem_map.mp member
  exact (identifiers segment listed).blank_not_mem

theorem blank_not_mem_of_builtIn {name : String} (listed : name ∈ Registry.builtIn.names) :
    ' ' ∉ name.toList := by
  have each : ∀ entry ∈ Registry.builtIn.entries.map (·.1), ' ' ∉ entry.toList := by decide
  exact each name (List.mem_mergeSort.mp listed)

theorem Rule.texts_of_explain {schema : Schema} {registry : Registry} {rule : Rule} {plan : Plan}
    (prepared : (rule.prepare schema registry).value = .ok plan) (record : Record) :
    (plan.explain record).outcomes.map (·.criterion) = rule.criteria.map (·.text) := by
  obtain ⟨checks, all, rfl⟩ := Rule.prepare_eq_ok_iff.mp prepared
  have beside := prepareAll_eq_ok_iff.mp all
  simp only [Plan.explain, List.map_map]
  generalize rule.criteria = criteria at beside ⊢
  clear all prepared
  induction beside with
  | nil => rfl
  | cons ready _ ih =>
      obtain ⟨strategy, leaf, test, -, -, -, rfl⟩ := Criterion.prepare_eq_ok_iff.mp ready
      exact congrArg₂ List.cons rfl ih

/-- Criteria without blanks in their paths and operators have different texts if they are
different.  Paths that nothing is found about and names of built-in operators have no blanks. -/
theorem Criterion.texts_tell_apart :
    (∀ index path, pathFindings index path = [] → ' ' ∉ path.toList) ∧
    (∀ name ∈ Registry.builtIn.names, ' ' ∉ name.toList) ∧
    (∀ criterion other : Criterion, criterion.Unspaced → other.Unspaced →
      criterion.text = other.text → criterion = other) ∧
    ∀ (schema : Schema) (registry : Registry) (rule : Rule) (plan : Plan) (record : Record),
      (rule.prepare schema registry).value = .ok plan →
      (∀ criterion ∈ rule.criteria, criterion.Unspaced) →
      ∀ (i j : Nat) (first second : Outcome), (plan.explain record).outcomes[i]? = some first →
        (plan.explain record).outcomes[j]? = some second → first.criterion = second.criterion →
        rule.criteria[i]? = rule.criteria[j]? := by
  refine ⟨fun _ _ => blank_not_mem_of_no_findings, fun _ => blank_not_mem_of_builtIn,
    fun _ _ => Unspaced.eq_of_text_eq, ?_⟩
  intro schema registry rule plan record prepared unspaced i j first second atFirst atSecond same
  have texts := Rule.texts_of_explain prepared record
  have shown : ∀ {place : Nat} {outcome : Outcome},
      (plan.explain record).outcomes[place]? = some outcome →
      ∃ criterion : Criterion, rule.criteria[place]? = some criterion ∧
        criterion.text = outcome.criterion := by
    intro place outcome stands
    have atPlace := congrArg (·[place]?) texts
    simp only [List.getElem?_map, stands, Option.map_some] at atPlace
    exact Option.map_eq_some_iff.mp atPlace.symm
  obtain ⟨criterion, atI, textI⟩ := shown atFirst
  obtain ⟨other, atJ, textJ⟩ := shown atSecond
  have criteria : criterion = other :=
    (unspaced criterion (List.mem_of_getElem? atI)).eq_of_text_eq
      (unspaced other (List.mem_of_getElem? atJ)) (textI.trans (same.trans textJ.symm))
  rw [atI, atJ, criteria]

/-- An escape is told from the same characters in a text, and no argument from an empty one. -/
theorem Criterion.texts_tell_apart_look_alikes :
    let escaped : Criterion := ⟨"Name", "Equal", some "\x01"⟩
    let literal : Criterion := ⟨"Name", "Equal", some "\\u\x7b1\x7d"⟩
    let absent : Criterion := ⟨"Name", "Equal", none⟩
    let empty : Criterion := ⟨"Name", "Equal", some ""⟩
    let schema : Schema := ⟨fun _ => default, ⟨"Hero", [⟨"Name", .scalar .text, true, true⟩]⟩⟩
    let rule : Rule := ⟨"blank", [absent, empty, absent]⟩
    pathFindings 0 "Name" = [] ∧ "Equal" ∈ Registry.builtIn.names ∧
      (∀ criterion ∈ [escaped, literal, absent, empty], criterion.Unspaced) ∧
      escaped.text ≠ literal.text ∧ absent.text ≠ empty.text ∧
      ∃ plan, (rule.prepare schema .builtIn).value = .ok plan ∧
        ∀ (record : Record) (i : Nat) (outcome : Outcome),
          (plan.explain record).outcomes[i]? = some outcome → outcome.criterion = absent.text →
          rule.criteria[i]? = some absent := by
  intro escaped literal absent empty schema rule
  obtain ⟨pathClear, namesClear, apart, shownApart⟩ := texts_tell_apart
  have clear : pathFindings 0 "Name" = [] := by decide
  have listed : "Equal" ∈ Registry.builtIn.names := Registry.mem_names_iff.mpr ⟨_, rfl⟩
  have unspaced : ∀ value, Criterion.Unspaced ⟨"Name", "Equal", value⟩ := fun _ =>
    ⟨pathClear 0 "Name" clear, namesClear "Equal" listed⟩
  let plan : Plan := ⟨"blank", "Hero",
    [⟨absent, [0], .isNull⟩, ⟨empty, [0], .compare .equal (.text "")⟩, ⟨absent, [0], .isNull⟩]⟩
  have prepared : (Rule.prepare schema .builtIn ⟨"blank", [⟨"Name", "Equal", none⟩,
      ⟨"Name", "Equal", some ""⟩, ⟨"Name", "Equal", none⟩]⟩).value = .ok plan := rfl
  refine ⟨clear, listed, ?_, fun same => ?_, fun same => ?_, plan, prepared, ?_⟩
  · simp only [List.forall_mem_cons]
    exact ⟨unspaced _, unspaced _, unspaced _, unspaced _, nofun⟩
  · have values : some "\x01" = some "\\u\x7b1\x7d" :=
      congrArg Criterion.value (apart escaped literal (unspaced _) (unspaced _) same)
    exact absurd values (by decide)
  · have values : none = some "" :=
      congrArg Criterion.value (apart absent empty (unspaced _) (unspaced _) same)
    cases values
  · intro record i outcome atPlace same
    refine shownApart schema .builtIn rule plan record prepared ?_ i 0 outcome _ atPlace rfl same
    simp only [rule, List.forall_mem_cons]
    exact ⟨unspaced _, unspaced _, unspaced _, nofun⟩

end RecordRules
