import RecordRules.Proofs.CommandLine.DecodedLines

/-!
# Runs with and without explanations

A run that prints names asks once which rules hold; a run that prints explanations asks
anew for each rule and leaves out the rules for which there is no answer.  On the same
files the two agree: where the first prints names, the second explains every rule and
says of the rules of these names, and of no others, that they hold.  Where the first fails
for a rule that cannot be prepared, the second leaves that rule out; where it fails for
lack of rules or of a document, so does the second.
-/

namespace RecordRules.CommandLine

section Modes

variable {surroundings : Surroundings} {plain explaining : List String} {rules : List Rule}
  {document : Json}

theorem run_of_plain (isPlain : asksToExplain plain = false)
    (loads : Loads surroundings plain rules document) :
    run surroundings plain = matchingRun (evaluator (settings surroundings) rules) document := by
  rw [run_of_loads loads, isPlain]
  rfl

theorem run_of_asking (asks : asksToExplain explaining = true)
    (loads : Loads surroundings explaining rules document) :
    run surroundings explaining =
      explainingRun (evaluator (settings surroundings) rules) document := by
  rw [run_of_loads loads, asks]
  rfl

/-- The rules that a run explains are some of the rules that can be prepared, in their order. -/
theorem exists_explained_sublist (settings : Settings) (rules : List Rule) (document : Json) :
    ∃ told explanations, told.Sublist rules ∧ Explained document told explanations ∧
      explainingRun (evaluator settings rules) document =
        .lines (explanations.map (·.toLine)) := by
  cases spoiled : spoiling? settings rules document with
  | none =>
      exact ⟨_, _, List.filter_sublist, explained_filterMap document rules,
        explainingRun_of_unspoiled spoiled⟩
  | some error => exact ⟨[], [], List.nil_sublist rules, .nil, explainingRun_of_spoiled spoiled⟩

theorem explained_answer {answer : Answer} {explanations : List Explanation}
    (explained : answer = .lines (explanations.map (·.toLine))) :
    answer.code = 0 ∧
      answer.output = String.join (explanations.map (·.toLine ++ "\n")) ∧
      Explains answer.output explanations := by
  subst explained
  exact ⟨rfl, output_lines_map _ _, explains_output_lines explanations⟩

end Modes

/-- Where a run without explanations succeeds, it prints the names of the rules that the other
run explains as holding.  Where it fails for a refused rule, the other run leaves that rule out;
where it cannot start, neither can the other. -/
theorem plain_and_explaining_runs_agree {surroundings : Surroundings}
    {plain explaining : List String} (sameNames : operands explaining = operands plain)
    (isPlain : asksToExplain plain = false) (asks : asksToExplain explaining = true) :
    let printed := run surroundings plain
    let told := run surroundings explaining
    (∀ rules document, Loads surroundings plain rules document →
      (printed.code = 0 →
        ∃ found explanations,
          ((evaluator (settings surroundings) rules).matchingRules
            (some document.record)).value = .ok found ∧
          printed.output = String.join (found.map (·.rule.name ++ "\n")) ∧
          Explained document rules explanations ∧
          told.code = 0 ∧
          told.output = String.join (explanations.map (·.toLine ++ "\n")) ∧
          Explains told.output explanations ∧
          (explanations.filter (·.matched)).map (·.ruleName) = found.map (·.rule.name)) ∧
      (SomeRefused document rules →
        printed.code = 1 ∧ printed.output = "" ∧
        ∃ chosen explanations, chosen.Sublist rules ∧ Explained document chosen explanations ∧
          told.code = 0 ∧
          told.output = String.join (explanations.map (·.toLine ++ "\n")) ∧
          Explains told.output explanations)) ∧
    (CannotStart surroundings plain →
      printed.code = 1 ∧ printed.output = "" ∧ told.code = 1 ∧ told.output = "") ∧
    (printed.code = 0 → ∃ rules document, Loads surroundings plain rules document) ∧
    (printed.code ≠ 0 →
      CannotStart surroundings plain ∨
        ∃ rules document, Loads surroundings plain rules document ∧
          SomeRefused document rules) := by
  intro printed told
  have same := SameFiles.refl surroundings plain
  refine ⟨fun rules document loads => ?_, fun stuck => ?_, fun succeeded => ?_, fun failed => ?_⟩
  · have ofPlain : printed = _ := run_of_plain isPlain loads
    have ofAsking : told = _ := run_of_asking asks (loads.transfer same sameNames)
    refine ⟨fun succeeded => ?_, fun refused => ?_⟩
    -- A run that succeeds has met no refused rule, so even strict settings spoil nothing.
    · rcases explained_or_refused document rules with ⟨explanations, each⟩ | refused
      · obtain ⟨found, answered, names⟩ := matchingRules_of_explained (settings surroundings) each
        have unspoiled : spoiling? (settings surroundings) rules document = none :=
          spoiling?_eq_none_iff.mpr (.inr each.not_someRefused)
        have named : printed = .lines (found.map (·.rule.name)) := by
          rw [ofPlain, matchingRun, answered]
        have explained : told = .lines (explanations.map (·.toLine)) := by
          rw [ofAsking, explainingRun_of_unspoiled unspoiled, each.filterMap_eq]
        obtain ⟨code, output, explains⟩ := explained_answer explained
        exact ⟨found, explanations, answered, named ▸ output_lines_map _ _, each, code, output,
          explains, names.symm⟩
      · rw [ofPlain, matchingRun_of_refused _ refused] at succeeded
        cases succeeded
    · have failed : printed = .failure := ofPlain.trans (matchingRun_of_refused _ refused)
      obtain ⟨chosen, explanations, among, each, explained⟩ :=
        exists_explained_sublist (settings surroundings) rules document
      exact ⟨congrArg Answer.code failed, congrArg Answer.output failed, chosen, explanations,
        among, each, explained_answer (ofAsking.trans explained)⟩
  · have failed : printed = .failure := run_of_cannotStart stuck
    have failedToo : told = .failure := run_of_cannotStart (stuck.transfer same sameNames)
    exact ⟨congrArg Answer.code failed, congrArg Answer.output failed,
      congrArg Answer.code failedToo, congrArg Answer.output failedToo⟩
  · rcases loads_or_cannotStart surroundings plain with loads | stuck
    · exact loads
    · rw [show printed = .failure from run_of_cannotStart stuck] at succeeded
      cases succeeded
  · rcases loads_or_cannotStart surroundings plain with ⟨rules, document, loads⟩ | stuck
    · rcases explained_or_refused document rules with ⟨explanations, each⟩ | refused
      · have succeeded : printed = _ :=
          (run_of_plain isPlain loads).trans (matchingRun_of_explained _ each)
        exact absurd (congrArg Answer.code succeeded) failed
      · exact .inr ⟨rules, document, loads, refused⟩
    · exact .inl stuck

/-- Of a rule that holds and one that does not, one is printed and both are explained. -/
theorem plain_and_explaining_runs_agree_on_null_member :
    let document : Json := .object [("x", .null)]
    let absent : Rule := ⟨"absent", [⟨"x", "IsNull", none⟩]⟩
    let present : Rule := ⟨"present", [⟨"x", "IsNotNull", none⟩]⟩
    let unresolved : Rule := ⟨"unresolved", [⟨"y", "IsNull", none⟩]⟩
    let files : List (String × String) :=
      [("good.json", "[[\"absent\",[[\"x\",\"IsNull\"]]],[\"present\",[[\"x\",\"IsNotNull\"]]]]"),
        ("bad.json", "[[\"absent\",[[\"x\",\"IsNull\"]]],[\"unresolved\",[[\"y\",\"IsNull\"]]]]"),
        ("document.json", "\x7b\"x\":null\x7d")]
    let surroundings : Surroundings := ⟨(List.lookup · files), []⟩
    let run := run surroundings
    (Loads surroundings ["good.json", "document.json"] [absent, present] document ∧
      (run ["good.json", "document.json"]).code = 0 ∧
      (run ["good.json", "document.json"]).output = "absent\n" ∧
      (run ["good.json", "document.json", "--explain"]).code = 0 ∧
      Explains (run ["good.json", "document.json", "--explain"]).output
        [⟨"absent", true, [⟨"x IsNull", true⟩]⟩, ⟨"present", false, [⟨"x IsNotNull", false⟩]⟩]) ∧
    (Loads surroundings ["bad.json", "document.json"] [absent, unresolved] document ∧
      SomeRefused document [absent, unresolved] ∧
      (run ["bad.json", "document.json"]).code = 1 ∧
      (run ["bad.json", "document.json"]).output = "" ∧
      (run ["bad.json", "document.json", "--explain"]).code = 0) ∧
    (CannotStart surroundings ["good.json", "missing.json"] ∧
      (run ["good.json", "missing.json", "--explain"]).code = 1 ∧
      (run ["good.json", "missing.json", "--explain"]).output = "") := by
  intro document absent present unresolved files surroundings run
  have documentRead : surroundings.read "document.json" = some "\x7b\"x\":null\x7d" := rfl
  have documentParsed : Json.ofText "\x7b\"x\":null\x7d" = .ok document := by cbv
  have good : Loads surroundings ["good.json", "document.json"] [absent, present] document :=
    .intro rfl rfl rfl documentRead documentParsed
  have bad : Loads surroundings ["bad.json", "document.json"] [absent, unresolved] document :=
    .intro rfl rfl rfl documentRead documentParsed
  have stuck : CannotStart surroundings ["good.json", "missing.json"] := .documentMissing rfl rfl
  have each : Explained document [absent, present]
      [⟨"absent", true, [⟨"x IsNull", true⟩]⟩, ⟨"present", false, [⟨"x IsNotNull", false⟩]⟩] :=
    .cons rfl (.cons rfl .nil)
  have refused : SomeRefused document [absent, unresolved] :=
    ⟨unresolved, List.mem_cons_of_mem absent List.mem_cons_self, rfl⟩
  refine ⟨⟨good, ?_⟩, ⟨bad, refused, ?_⟩, stuck, ?_⟩
  · obtain ⟨agree, -⟩ := @plain_and_explaining_runs_agree surroundings
      ["good.json", "document.json"] ["good.json", "document.json", "--explain"] rfl rfl rfl
    have succeeded : (run ["good.json", "document.json"]).code = 0 :=
      congrArg Answer.code ((run_of_plain rfl good).trans (matchingRun_of_explained _ each))
    obtain ⟨found, told, -, printed, toldEach, code, -, explains, names⟩ :=
      (agree _ _ good).1 succeeded
    obtain rfl := toldEach.filterMap_eq.symm.trans each.filterMap_eq
    have joined : String.join (found.map (·.rule.name ++ "\n")) = "absent\n" := by
      rw [show found.map (·.rule.name ++ "\n") = (found.map (·.rule.name)).map (· ++ "\n") by
        simp, ← names]
      rfl
    exact ⟨succeeded, printed.trans joined, code, explains⟩
  · obtain ⟨agree, -⟩ := @plain_and_explaining_runs_agree surroundings
      ["bad.json", "document.json"] ["bad.json", "document.json", "--explain"] rfl rfl rfl
    obtain ⟨code, output, told, explanations, -, -, explained, -⟩ := (agree _ _ bad).2 refused
    exact ⟨code, output, explained⟩
  · obtain ⟨-, agree, -⟩ := @plain_and_explaining_runs_agree surroundings
      ["good.json", "missing.json"] ["good.json", "missing.json", "--explain"] rfl rfl rfl
    exact (agree stuck).2.2

end RecordRules.CommandLine
