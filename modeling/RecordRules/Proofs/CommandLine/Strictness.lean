import RecordRules.Proofs.CommandLine.Answers
import RecordRules.Proofs.Rule.Lines

/-!
# What settings can change

A run without explanations tells the same whatever the settings are and whether they can be
loaded or not.  A run with explanations tells of every rule that can be prepared for the
document, but under strict settings only as long as no rule of the file is refused:
otherwise it tells nothing, not even of the rules that can be prepared.
-/

namespace RecordRules.CommandLine

theorem Answer.lines_eq_lines_nil_iff {lines : List String} :
    Answer.lines lines = Answer.lines [] ↔ lines = [] := by
  cases lines with
  | nil => simp
  | cons line rest => simp [Answer.lines]

section Settings

variable {document : Json} {settings : Settings} {rules : List Rule}

theorem matchingRun_settings_eq (first second : Settings) :
    matchingRun (evaluator first rules) document =
      matchingRun (evaluator second rules) document := by
  rcases explained_or_refused document rules with ⟨explanations, each⟩ | refused
  · rw [matchingRun_of_explained first each, matchingRun_of_explained second each]
  · rw [matchingRun_of_refused first refused, matchingRun_of_refused second refused]

/-- All explanations are told, unless they are spoiled and there are some. -/
theorem explainingRun_eq_all_iff :
    explainingRun (evaluator settings rules) document =
        .lines ((rules.filterMap (explanation? document)).map (·.toLine)) ↔
      settings.strictCompile = false ∨ ¬ SomeRefused document rules ∨
        rules.filterMap (explanation? document) = [] := by
  rw [← or_assoc, ← spoiling?_eq_none_iff]
  cases spoiled : spoiling? settings rules document with
  | none => simp [explainingRun_of_unspoiled spoiled]
  | some error =>
      -- What is printed is nothing, which is everything only if there is nothing to tell.
      rw [explainingRun_of_spoiled spoiled, eq_comm, Answer.lines_eq_lines_nil_iff,
        List.map_eq_nil_iff]
      simp

theorem explainingRun_of_strict (strict : settings.strictCompile = true)
    (refused : SomeRefused document rules) :
    explainingRun (evaluator settings rules) document = .lines [] := by
  cases spoiled : spoiling? settings rules document with
  | some error => exact explainingRun_of_spoiled spoiled
  | none =>
      rcases spoiling?_eq_none_iff.mp spoiled with lenient | all
      · cases lenient.symm.trans strict
      · exact absurd refused all

end Settings

/-- Runs without explanations that find the same texts in their two files end alike and print the
same, whatever else they see. -/
theorem run_eq_of_same_files {first second : Surroundings} {words : List String}
    (plain : asksToExplain words = false) (same : SameFiles first second words) :
    run first words = run second words := by
  rcases loads_or_cannotStart first words with ⟨rules, document, loads⟩ | stuck
  · have also : Loads second words rules document := loads.transfer same rfl
    rw [run_of_loads loads, run_of_loads also, plain]
    exact matchingRun_settings_eq (settings first) (settings second)
  · have also : CannotStart second words := stuck.transfer same rfl
    rw [run_of_cannotStart stuck, run_of_cannotStart also]

/-- Strict settings and settings that cannot be loaded print the same, even of a refused rule. -/
theorem run_eq_of_same_files_under_strict_settings :
    let files : List (String × String) :=
      [("rules.json", "[[\"good\"],[\"bad\",[[\"x\",\"IsNull\"]]]]"), ("document.json", "\x7b\x7d")]
    let strict : Surroundings :=
      ⟨(List.lookup · files), [("RULE_ENGINE_STRICT_COMPILE", "true")]⟩
    let unloadable : Surroundings :=
      ⟨(List.lookup · (("config/default.toml", "=") :: files)), []⟩
    let words := ["rules.json", "document.json"]
    asksToExplain words = false ∧ SameFiles strict unloadable words ∧
      Settings.load? strict.read strict.environment programName =
        some { strictCompile := true } ∧
      Settings.load? unloadable.read unloadable.environment programName = none ∧
      run strict words = run unloadable words := by
  intro files strict unloadable words
  have plain : asksToExplain words = false := rfl
  have same : SameFiles strict unloadable words := by
    intro rulesPath documentPath named
    cases named
    exact ⟨rfl, rfl⟩
  have loaded : Settings.load? strict.read strict.environment programName =
      some { strictCompile := true } := by decide +kernel
  have unloaded : Settings.load? unloadable.read unloadable.environment programName = none := by
    decide +kernel
  exact ⟨plain, same, loaded, unloaded, run_eq_of_same_files plain same⟩

/-- A run with explanations tells of every rule that can be prepared exactly if the settings are
not strict, or no rule is refused, or there is no rule to tell of.  Strict settings that meet a
refused rule leave nothing to tell. -/
theorem run_tells_all_iff {surroundings : Surroundings} {words : List String} {rules : List Rule}
    {document : Json} (asks : asksToExplain words = true)
    (loads : Loads surroundings words rules document) :
    (run surroundings words).code = 0 ∧
      (run surroundings words =
          .lines ((rules.filterMap (explanation? document)).map (·.toLine)) ↔
        (settings surroundings).strictCompile = false ∨ ¬ SomeRefused document rules ∨
          rules.filterMap (explanation? document) = []) ∧
      ((settings surroundings).strictCompile = true → SomeRefused document rules →
        run surroundings words = .lines []) ∧
      ∀ explanation ∈ rules.filterMap (explanation? document),
        OnOneLine explanation.toLine.toList := by
  rw [run_of_loads loads, asks, if_pos rfl]
  exact ⟨rfl, explainingRun_eq_all_iff, explainingRun_of_strict,
    fun explanation _ => explanation.onOneLine_toLine⟩

/-- A rule that is refused is left out, and under strict settings so is the one before it. -/
theorem run_tells_all_iff_beside_refused_rule :
    let good : Rule := ⟨"good", []⟩
    let bad : Rule := ⟨"bad", [⟨"x", "IsNull", none⟩]⟩
    let explanation : Explanation := ⟨"good", true, []⟩
    let files : List (String × String) :=
      [("rules.json", "[[\"good\"],[\"bad\",[[\"x\",\"IsNull\"]]]]"), ("document.json", "\x7b\x7d")]
    let lenient : Surroundings := ⟨(List.lookup · files), []⟩
    let strict : Surroundings :=
      ⟨(List.lookup · files), [("RULE_ENGINE_STRICT_COMPILE", "true")]⟩
    let words := ["rules.json", "document.json", "--explain"]
    asksToExplain words = true ∧ SomeRefused (.object []) [good, bad] ∧
      (Loads lenient words [good, bad] (.object []) ∧
        run lenient words = .lines [explanation.toLine]) ∧
      (Loads strict words [good, bad] (.object []) ∧ run strict words = .lines []) := by
  intro good bad explanation files lenient strict words
  have asks : asksToExplain words = true := rfl
  have refused : SomeRefused (.object []) [good, bad] :=
    ⟨bad, List.mem_cons_of_mem good List.mem_cons_self, rfl⟩
  have loads : Loads lenient words [good, bad] (.object []) := .intro rfl rfl rfl rfl rfl
  have strictLoads : Loads strict words [good, bad] (.object []) := .intro rfl rfl rfl rfl rfl
  have lenientSettings : (settings lenient).strictCompile = false := by decide +kernel
  have strictSettings : (settings strict).strictCompile = true := by decide +kernel
  obtain ⟨-, tellsAll, -⟩ := run_tells_all_iff asks loads
  obtain ⟨-, -, tellsNone, -⟩ := run_tells_all_iff asks strictLoads
  exact ⟨asks, refused, ⟨loads, tellsAll.mpr (.inl lenientSettings)⟩,
    strictLoads, tellsNone strictSettings refused⟩

/-- Settings that can be loaded take away the explanation of a rule that can be prepared. -/
theorem run_leaves_out_explained_rule :
    let good : Rule := ⟨"good", []⟩
    let bad : Rule := ⟨"bad", [⟨"x", "IsNull", none⟩]⟩
    let explanation : Explanation := ⟨"good", true, []⟩
    let rulesText := "[\x7b\"name\":\"good\"\x7d,\x7b\"name\":\"bad\",\"criteria\":[" ++
      "\x7b\"property_path\":\"x\",\"operator\":\"IsNull\"\x7d]\x7d]"
    let surroundings : Surroundings :=
      { read := (List.lookup · [("rules.json", rulesText), ("document.json", "\x7b\x7d")])
        environment := [("RULE_ENGINE_STRICT_COMPILE", "true")] }
    let words := ["rules.json", "document.json", "--explain"]
    asksToExplain words = true ∧ Loads surroundings words [good, bad] (.object []) ∧
      Settings.load? surroundings.read surroundings.environment programName =
        some { strictCompile := true } ∧
      [good, bad].filterMap (explanation? (.object [])) = [explanation] ∧
      run surroundings words ≠ .lines [explanation.toLine] := by
  intro good bad explanation rulesText surroundings words
  have asks : asksToExplain words = true := rfl
  have rulesParsed : Rule.listOfJson rulesText = .ok [good, bad] := by
    unfold rulesText
    cbv
  have loads : Loads surroundings words [good, bad] (.object []) :=
    .intro rfl rfl rulesParsed rfl rfl
  have loaded : Settings.load? surroundings.read surroundings.environment programName =
      some { strictCompile := true } := by decide +kernel
  have strict : (settings surroundings).strictCompile = true := by
    rw [settings, loaded]
    rfl
  have refused : SomeRefused (.object []) [good, bad] :=
    ⟨bad, List.mem_cons_of_mem good List.mem_cons_self, rfl⟩
  refine ⟨asks, loads, loaded, rfl, fun printed => ?_⟩
  rw [run_of_loads loads, asks, if_pos rfl, explainingRun_of_strict strict refused, eq_comm,
    Answer.lines_eq_lines_nil_iff] at printed
  cases printed

end RecordRules.CommandLine
