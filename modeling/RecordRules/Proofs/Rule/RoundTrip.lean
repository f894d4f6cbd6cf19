import RecordRules.Proofs.Json.ReadBack
import RecordRules.Rule.Reader

/-!
# Rules are read back from what is written of them

A rule that is written as a JSON text and read again is the same rule: its name, its
criteria in their order, and their paths, operators and arguments with all characters.
A missing argument stays missing and an empty one stays empty.  A list of written rules is
read as the list of the rules.
-/

namespace RecordRules

open Json

theorem Json.spacedMember_eq (key : String) (written : List Char) :
    spacedMember key written = memberWith [' '] key written := rfl

theorem between_eq_intercalate (separator : List Char) (parts : List (List Char)) :
    between separator parts = separator.intercalate parts := by
  induction parts with
  | nil => rfl
  | cons part parts ih =>
      cases parts with
      | nil => simp [between, List.intercalate]
      | cons next parts => simp [between, ih, List.intercalate]

theorem Json.Gathers.takeOnce {α σ : Type} {step : σ → String → Except Fault (Reader σ)}
    {gap written : List Char} {state last : σ} {key : String} {value : Reader α} {item : α}
    {put : α → σ} {others : List (List Char)}
    (chosen : step state key = RecordRules.takeOnce key none value put)
    (back : ReadsBack value written item) (onward : Gathers step gap (put item) others last) :
    Gathers step gap state (memberWith gap key written :: others) last :=
  .member chosen (back.map put) onward

namespace Criterion

theorem step_path (held : Gathered) :
    step held "property_path" = takeOnce "property_path" held.path textValue
      fun value => { held with path := some value } := rfl

theorem step_operator (held : Gathered) :
    step held "operator" = takeOnce "operator" held.operator textValue
      fun value => { held with operator := some value } := rfl

theorem step_value (held : Gathered) :
    step held "value" = takeOnce "value" held.value (optionalValue textValue)
      fun value => { held with value := some value } := rfl

/-- The members of a written criterion fill the places of the criterion one after another. -/
theorem gathers (criterion : Criterion) :
    Gathers step [' '] {}
      [spacedMember "property_path" (writeText criterion.path),
        spacedMember "operator" (writeText criterion.operator),
        spacedMember "value" (writeArgument criterion.value)]
      ⟨some criterion.path, some criterion.operator, some criterion.value⟩ := by
  simp only [spacedMember_eq]
  refine .takeOnce (step_path _) (readsBack_text criterion.path) ?_
  refine .takeOnce (step_operator _) (readsBack_text criterion.operator) ?_
  refine .takeOnce (step_value _) (readsBack_argument criterion.value) ?_
  exact .done _

theorem readsBack_writeAt (level : Nat) (criterion : Criterion) :
    ReadsBack read (criterion.writeAt level) criterion := by
  have completed : Gathered.complete ⟨some criterion.path, some criterion.operator,
      some criterion.value⟩ = .ok criterion := rfl
  -- What is left is that the reader of criteria opens its object as the lemma asks.
  refine criterion.gathers.readsBack_spacedObject completed ?_ level
  intro text inside shown
  rw [read, shown]
  rfl

end Criterion

namespace Rule

theorem step_name (held : Gathered) :
    step held "name" = takeOnce "name" held.name textValue
      fun value => { held with name := some value } := rfl

theorem step_criteria (held : Gathered) :
    step held "criteria" = takeOnce "criteria" held.criteria (listValue Criterion.read)
      fun value => { held with criteria := some value } := rfl

/-- The members of a written rule fill the places of the rule one after another. -/
theorem gathers (rule : Rule) :
    Gathers step [' '] {}
      [spacedMember "name" (writeText rule.name),
        spacedMember "criteria" (spacedList 1 (rule.criteria.map (·.writeAt 2)))]
      ⟨some rule.name, some rule.criteria⟩ := by
  have beside : List.Forall₂ (ReadsBack Criterion.read) (rule.criteria.map (·.writeAt 2))
      (rule.criteria.map id) :=
    readsBack_map fun criterion _ => criterion.readsBack_writeAt 2
  rw [List.map_id] at beside
  simp only [spacedMember_eq]
  refine .takeOnce (step_name _) (readsBack_text rule.name) ?_
  refine .takeOnce (step_criteria _) (readsBack_spacedList beside 1) ?_
  exact .done _

theorem readsBack_toJson (rule : Rule) : ReadsBack read rule.toJson.toList rule := by
  rw [toJson, String.toList_ofList]
  have completed : Gathered.complete ⟨some rule.name, some rule.criteria⟩ = .ok rule := rfl
  refine rule.gathers.readsBack_spacedObject completed ?_ 0
  intro text inside shown
  rw [read, shown]
  rfl

theorem readsBack_listed (rules : List Rule) {opening before after closing : String}
    (blankOpening : IsGap opening.toList) (blankBefore : IsGap before.toList)
    (blankAfter : IsGap after.toList) (blankClosing : IsGap closing.toList) :
    ReadsBack (listValue read)
      ("[" ++ opening ++ (before ++ "," ++ after).intercalate (rules.map toJson) ++ closing ++
        "]").toList rules := by
  have beside : List.Forall₂ (ReadsBack read) (rules.map (·.toJson.toList)) (rules.map id) :=
    readsBack_map fun rule _ => rule.readsBack_toJson
  rw [List.map_id] at beside
  have back := readsBack_list beside blankOpening blankBefore blankAfter blankClosing
  simpa [between_eq_intercalate, Function.comp_def] using back

/-- What is written of a rule is read as the rule.  What is written of rules, set one behind the
other with commas and any blanks between and put in brackets, is read as the list of the rules. -/
theorem ofJson_toJson_and_listOfJson :
    (∀ rule : Rule, ofJson rule.toJson = .ok rule) ∧
    ∀ (rules : List Rule) (opening before after closing : String), IsGap opening.toList →
      IsGap before.toList → IsGap after.toList → IsGap closing.toList →
      listOfJson ("[" ++ opening ++ (before ++ "," ++ after).intercalate (rules.map toJson) ++
        closing ++ "]") = .ok rules := by
  constructor
  · intro rule
    have read := rule.readsBack_toJson.whole_eq isGap_nil isGap_nil
    rw [List.nil_append, List.append_nil] at read
    rw [ofJson, read]
    rfl
  · intro rules opening before after closing blankOpening blankBefore blankAfter blankClosing
    have back := readsBack_listed rules blankOpening blankBefore blankAfter blankClosing
    have read := back.whole_eq isGap_nil isGap_nil
    rw [List.nil_append, List.append_nil] at read
    rw [listOfJson, read]
    rfl

/-- Quotes, controls and a character beyond the first plane come back, and so do empty texts. -/
theorem ofJson_toJson_and_listOfJson_of_odd_texts :
    let odd : Rule := ⟨"say \"hi\" \\ \x01\n😀",
      [⟨"", "Equal", some ""⟩, ⟨"Name", "IsNull", none⟩, ⟨"\t.", "é", some "null"⟩]⟩
    let bare : Rule := ⟨"", []⟩
    IsGap "\n  ".toList ∧ IsGap " ".toList ∧ IsGap "\t".toList ∧ IsGap "\r\n".toList ∧
      ofJson odd.toJson = .ok odd ∧
      listOfJson ("[" ++ "\n  " ++ (" " ++ "," ++ "\t").intercalate ([odd, bare, odd].map toJson) ++
        "\r\n" ++ "]") = .ok [odd, bare, odd] := by
  intro odd bare
  have opening : IsGap "\n  ".toList := by decide
  have before : IsGap " ".toList := by decide
  have after : IsGap "\t".toList := by decide
  have closing : IsGap "\r\n".toList := by decide
  obtain ⟨single, listed⟩ := ofJson_toJson_and_listOfJson
  exact ⟨opening, before, after, closing, single odd,
    listed [odd, bare, odd] "\n  " " " "\t" "\r\n" opening before after closing⟩

end Rule

end RecordRules
