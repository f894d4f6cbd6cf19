import RecordRules.Proofs.CommandLine.Answers
import RecordRules.Proofs.Json.WrittenDocument
import RecordRules.Proofs.Record.Document
import RecordRules.Proofs.Rule.Lines

/-!
# Printed explanations are read back

The line of an explanation is a JSON document from which the explanation can be got back: the
name of the rule, the flags and the texts of the outcomes in their order.  A run with
explanations prints lines, and the text that it prints falls into these lines at its line feeds,
whatever there is in the names of the rules and in their criteria.
-/

namespace RecordRules

open Json

/-! ## Explanations as documents -/

def Outcome.document (outcome : Outcome) : Json :=
  .object [("criterion", .text outcome.criterion), ("matched", .bool outcome.matched)]

/-- An explanation as a document; the keys are in order. -/
def Explanation.document (explanation : Explanation) : Json :=
  .object
    [("matched", .bool explanation.matched),
      ("outcomes", .list (explanation.outcomes.map (·.document))),
      ("rule_name", .text explanation.ruleName)]

namespace Json

def text? : Json → Option String
  | .text value => some value
  | _ => none

def bool? : Json → Option Bool
  | .bool value => some value
  | _ => none

def items? : Json → Option (List Json)
  | .list items => some items
  | _ => none

end Json

def Outcome.ofDocument? (document : Json) : Option Outcome := do
  let criterion ← (document.member? "criterion").bind text?
  let matched ← (document.member? "matched").bind bool?
  some ⟨criterion, matched⟩

def Explanation.ofDocument? (document : Json) : Option Explanation := do
  let ruleName ← (document.member? "rule_name").bind text?
  let matched ← (document.member? "matched").bind bool?
  let items ← (document.member? "outcomes").bind items?
  let outcomes ← items.mapM Outcome.ofDocument?
  some ⟨ruleName, matched, outcomes⟩

theorem Outcome.ofDocument?_document (outcome : Outcome) :
    ofDocument? outcome.document = some outcome := rfl

theorem Explanation.ofDocument?_document (explanation : Explanation) :
    ofDocument? explanation.document = some explanation := by
  have outcomes : (explanation.outcomes.map (·.document)).mapM Outcome.ofDocument? =
      some explanation.outcomes := by
    induction explanation.outcomes with
    | nil => rfl
    | cons outcome rest ih => simp [Outcome.ofDocument?_document, ih]
  change ((explanation.outcomes.map (·.document)).mapM Outcome.ofDocument? >>= _) = _
  rw [outcomes]
  rfl

/-! ## Lines as documents -/

theorem Outcome.readsBack_writeLine (depth : Nat) (outcome : Outcome) :
    ReadsBack (nested (depth + 1)) outcome.writeLine outcome.document := by
  have gathers : Gathers (memberStep (nested depth)) [] []
      [compactMember "criterion" (writeText outcome.criterion),
        compactMember "matched" (writeBool outcome.matched)]
      [("criterion", .text outcome.criterion), ("matched", .bool outcome.matched)] := by
    refine .documentMember (readsBack_nested_text depth outcome.criterion) ?_
    refine .documentMember (readsBack_nested_bool depth outcome.matched) ?_
    exact .done _
  exact gathers.readsBack_nested_object

theorem Explanation.readsBack_toLine (depth : Nat) (explanation : Explanation) :
    ReadsBack (nested (depth + 3)) explanation.toLine.toList explanation.document := by
  have outcomes := readsBack_nested_list
    (readsBack_map fun outcome (_ : outcome ∈ explanation.outcomes) =>
      outcome.readsBack_writeLine depth)
  have gathers : Gathers (memberStep (nested (depth + 2))) [] []
      [compactMember "rule_name" (writeText explanation.ruleName),
        compactMember "matched" (writeBool explanation.matched),
        compactMember "outcomes"
          ('[' :: (between [','] (explanation.outcomes.map (·.writeLine)) ++ [']']))]
      [("matched", .bool explanation.matched),
        ("outcomes", .list (explanation.outcomes.map (·.document))),
        ("rule_name", .text explanation.ruleName)] := by
    -- The members are put in the order of their keys as they are read.
    refine .documentMember (readsBack_nested_text _ explanation.ruleName) ?_
    refine .documentMember (readsBack_nested_bool _ explanation.matched) ?_
    refine .documentMember outcomes ?_
    exact .done _
  rw [toLine, String.toList_ofList]
  exact gathers.readsBack_nested_object

theorem Explanation.ofText_toLine (explanation : Explanation) :
    Json.ofText explanation.toLine = .ok explanation.document := by
  have read := (explanation.readsBack_toLine 124).whole_eq isGap_nil isGap_nil
  rw [List.nil_append, List.append_nil] at read
  exact read

namespace CommandLine

theorem output_lines_eq_intercalate (lines : List String) :
    (Answer.lines lines).output.toList =
      ['\n'].intercalate (lines.map String.toList ++ [[]]) := by
  have printed : ∀ others : List String, (Answer.lines others).output.toList =
      others.flatMap fun line => line.toList ++ ['\n'] := by
    intro others
    simp [Answer.lines, List.flatMap_map]
  rw [printed]
  induction lines with
  | nil => rfl
  | cons line rest ih =>
      obtain ⟨next, others, shape⟩ :=
        List.exists_cons_of_ne_nil (List.append_ne_nil_of_right_ne_nil (rest.map String.toList)
          (List.cons_ne_nil [] []))
      rw [List.flatMap_cons, ih, List.map_cons, List.cons_append, shape,
        List.intercalate_cons_cons]

/-- Lines without line feeds inside are found again in what is printed of them. -/
theorem splitOn_output_lines {lines : List String} (each : ∀ line ∈ lines, '\n' ∉ line.toList) :
    (Answer.lines lines).output.toList.splitOn '\n' = lines.map String.toList ++ [[]] := by
  rw [output_lines_eq_intercalate]
  refine List.splitOn_intercalate _ ?_ (by simp)
  intro part member
  rcases List.mem_append.mp member with ofLine | last
  · obtain ⟨line, listed, rfl⟩ := List.mem_map.mp ofLine
    exact each line listed
  · simp [List.mem_singleton.mp last]

theorem output_lines_map {α : Type} (line : α → String) (items : List α) :
    (Answer.lines (items.map line)).output = String.join (items.map (line · ++ "\n")) := by
  rw [Answer.lines, List.map_map]
  rfl

/-- Whether a text falls at its line feeds into lines that are read as explanations, in order. -/
def Explains (output : String) (explanations : List Explanation) : Prop :=
  ∃ lines, output.toList.splitOn '\n' = lines ++ [[]] ∧
    List.Forall₂
      (fun line explanation =>
        (Json.ofText (String.ofList line)).toOption.bind Explanation.ofDocument? =
          some explanation)
      lines explanations

theorem explains_output_lines (explanations : List Explanation) :
    Explains (Answer.lines (explanations.map (·.toLine))).output explanations := by
  refine ⟨(explanations.map (·.toLine)).map String.toList, ?_, ?_⟩
  · refine splitOn_output_lines ?_
    simp only [List.forall_mem_map]
    exact fun explanation _ => explanation.onOneLine_toLine
  · simp only [List.map_map, List.forall₂_map_left_iff, List.forall₂_same]
    intro explanation _
    simp only [Function.comp_apply, String.ofList_toList, explanation.ofText_toLine,
      Except.toOption, Option.bind_some, explanation.ofDocument?_document]

end CommandLine

/-- The line of an explanation has no line break inside and is read back as the explanation.
What a run with explanations prints falls at its line feeds into one such line for each rule
that is explained. -/
theorem Explanation.lines_decode :
    (∀ explanation : Explanation,
      '\n' ∉ explanation.toLine.toList ∧ '\r' ∉ explanation.toLine.toList ∧
        Json.ofText explanation.toLine = .ok explanation.document ∧
        ofDocument? explanation.document = some explanation) ∧
    ∀ (surroundings : CommandLine.Surroundings) (words : List String) (rules : List Rule)
      (document : Json), CommandLine.asksToExplain words = true →
      CommandLine.Loads surroundings words rules document →
      let evaluator := CommandLine.evaluator (CommandLine.settings surroundings) rules
      ∃ lines, (CommandLine.run surroundings words).output.toList.splitOn '\n' = lines ++ [[]] ∧
        List.Forall₂
          (fun line explanation =>
            (Json.ofText (String.ofList line)).toOption.bind ofDocument? = some explanation)
          lines
          (evaluator.rules.filterMap fun held =>
            (evaluator.explain document.record held).value.toOption) := by
  refine ⟨fun explanation => ⟨explanation.controlFree_toLine.not_mem (by decide),
    explanation.controlFree_toLine.not_mem (by decide), explanation.ofText_toLine,
    explanation.ofDocument?_document⟩, ?_⟩
  intro surroundings words rules document asks loads evaluator
  have printed : CommandLine.run surroundings words =
      .lines ((evaluator.rules.filterMap fun held =>
        (evaluator.explain document.record held).value.toOption).map (·.toLine)) := by
    rw [CommandLine.run_of_loads loads, asks, if_pos rfl, CommandLine.explainingRun_eq,
      List.map_filterMap]
  rw [printed]
  exact CommandLine.explains_output_lines _

/-- Line breaks, quotes and backslashes in a name and in an argument leave one line of one rule. -/
theorem Explanation.lines_decode_across_line_breaks :
    let rule : Rule := ⟨"a\nb\r\"", [⟨"x", "IsNull", some "\n\\"⟩]⟩
    let explanation : Explanation :=
      ⟨"a\nb\r\"", true, [⟨"x IsNull \"\\n\\\\\"", true⟩]⟩
    let files : List (String × String) :=
      [("rules.json", "[[\"a\\nb\\r\\\"\",[[\"x\",\"IsNull\",\"\\n\\\\\"]]]]"),
        ("document.json", "\x7b\"x\":null\x7d")]
    let surroundings : CommandLine.Surroundings := ⟨(List.lookup · files), []⟩
    let words := ["rules.json", "document.json", "--explain"]
    CommandLine.asksToExplain words = true ∧
      CommandLine.Loads surroundings words [rule] (.object [("x", .null)]) ∧
      ∃ line, (CommandLine.run surroundings words).output.toList.splitOn '\n' = [line, []] ∧
        (Json.ofText (String.ofList line)).toOption.bind ofDocument? = some explanation := by
  intro rule explanation files surroundings words
  have asks : CommandLine.asksToExplain words = true := rfl
  have documentParsed : Json.ofText "\x7b\"x\":null\x7d" = .ok (.object [("x", .null)]) := by cbv
  have loads : CommandLine.Loads surroundings words [rule] (.object [("x", .null)]) :=
    .intro rfl rfl rfl rfl documentParsed
  obtain ⟨-, split⟩ := lines_decode
  obtain ⟨lines, printed, decoded⟩ := split surroundings words _ _ asks loads
  have explained : ((CommandLine.evaluator (CommandLine.settings surroundings)
      [rule]).rules.filterMap fun held =>
        ((CommandLine.evaluator (CommandLine.settings surroundings) [rule]).explain
          (Json.object [("x", .null)]).record held).value.toOption) = [explanation] := by
    decide +kernel
  rw [explained] at decoded
  cases decoded with
  | cons first rest =>
      cases rest
      exact ⟨asks, loads, _, printed, first⟩

end RecordRules
