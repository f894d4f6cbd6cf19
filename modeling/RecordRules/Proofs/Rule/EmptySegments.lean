import RecordRules.Proofs.Evaluator.Rebuilding
import RecordRules.Proofs.Plan.Refusals
import RecordRules.Proofs.Record.Document
import RecordRules.Proofs.Rule.Findings

/-!
# Empty segments

A path that is empty, or has a dot at an end or next to another one, has an empty segment.
Nothing keeps a field from having the empty name, however, and resolving a path asks for
nothing but the names of fields.  Paths with empty segments therefore fail exactly if no
readable field of the empty name can be got at, and it is then that a rule with such a path
never matches.
-/

namespace RecordRules

/-! ## Getting at the empty name -/

/-- Whether no field of the empty name is picked on a record type. -/
def RecordType.HidesEmpty (type : RecordType) : Prop :=
  ∀ slot field, type.First "" slot field → field.readable = false

/-- Whether no field of the empty name is picked on any record type that a path leads into. -/
def Schema.HidesEmpty (schema : Schema) : Prop :=
  ∀ pieces steps type, (∀ piece ∈ pieces, '.' ∉ piece.toList) →
    StepsInto schema.catalog schema.root pieces steps type → type.HidesEmpty

theorem StepsInto.exists_picks_of_mem {catalog : Catalog} {type final : RecordType}
    {pieces : List String} {steps : List Step}
    (into : StepsInto catalog type pieces steps final) {piece : String} (member : piece ∈ pieces) :
    ∃ front rest before last, pieces = front ++ piece :: rest ∧
      StepsInto catalog type front before last.type ∧ Step.Picks last piece := by
  induction into with
  | here => cases member
  | @step step inner final name names steps picks enters onward ih =>
      rcases List.mem_cons.mp member with rfl | later
      · exact ⟨[], names, [], step, rfl, .here, picks⟩
      · obtain ⟨front, rest, before, last, split, steps, found⟩ := ih later
        exact ⟨name :: front, rest, step :: before, last, by rw [split, List.cons_append],
          .step picks enters steps, found⟩

namespace Schema

variable {schema : Schema} {path : String}

/-- A schema hides the empty name if its record types do, which are the root and those that the
fields of a record type of the schema refer to. -/
theorem hidesEmpty_of_closed (types : RecordType → Prop) (root : types schema.root)
    (closed : ∀ type, types type → ∀ field ∈ type.fields, ∀ inner,
      field.type.record? schema.catalog = some inner → types inner)
    (hides : ∀ type, types type → type.HidesEmpty) : schema.HidesEmpty := by
  have stays : ∀ {type final : RecordType} {pieces : List String} {steps : List Step},
      StepsInto schema.catalog type pieces steps final → types type → types final := by
    intro type final pieces steps into known
    induction into with
    | here => exact known
    | step picks enters onward ih =>
        exact ih (closed _ known _ (List.mem_of_getElem? picks.first.stands) _ enters)
  intro pieces steps type dotless into
  exact hides type (stays into root)

theorem exists_picks_of_resolve_eq_ok {leaf : Leaf} (resolved : schema.resolve path = .ok leaf)
    {segment : String} (member : segment ∈ segments path) :
    ∃ front rest before last, segments path = front ++ segment :: rest ∧
      StepsInto schema.catalog schema.root front before last.type ∧ Step.Picks last segment := by
  have comesTo := schema.comesTo_resolve path
  rw [resolved] at comesTo
  generalize segments path = pieces at comesTo member
  cases comesTo with
  | @leaf front final before last steps picks =>
      rcases List.mem_append.mp member with inside | atEnd
      · obtain ⟨front', rest, before', last', rfl, steps', found⟩ :=
          steps.exists_picks_of_mem inside
        exact ⟨front', rest ++ [final], before', last', by simp, steps', found⟩
      · obtain rfl := List.mem_singleton.mp atEnd
        exact ⟨front, [], before, last, rfl, steps, picks⟩

/-- Where the steps before an empty segment lead, the segment fails unless it picks a field. -/
theorem resolve_at_empty_segment {front rest : List String}
    (split : segments path = front ++ "" :: rest) {steps : List Step} {type : RecordType}
    (into : StepsInto schema.catalog schema.root front steps type) (hides : type.HidesEmpty) :
    schema.resolve path = .error (.invalidPath path "" type.name) := by
  apply resolve_eq_of_comesTo
  rw [split]
  exact .missing into hides

theorem HidesEmpty.fails (hides : schema.HidesEmpty) (empty : "" ∈ segments path) :
    ∃ segment ∈ segments path, ∃ typeName,
      schema.resolve path = .error (.invalidPath path segment typeName) := by
  cases resolved : schema.resolve path with
  | error error =>
      obtain ⟨segment, member, typeName, rfl⟩ := exists_segment_of_resolve_eq_error resolved
      exact ⟨segment, member, typeName, rfl⟩
  | ok leaf =>
      obtain ⟨front, rest, before, last, split, steps, picks⟩ :=
        exists_picks_of_resolve_eq_ok resolved empty
      have dotless : ∀ piece ∈ front, '.' ∉ piece.toList := by
        intro piece member
        refine ((segments_eq_iff path _).mp rfl).dotless piece ?_
        rw [split]
        exact List.mem_append_left _ member
      have closed := hides front before last.type dotless steps last.slot last.field picks.first
      cases closed.symm.trans picks.readable

theorem exists_resolve_eq_ok {front : List String} {steps : List Step} {last : Step}
    (dotless : ∀ piece ∈ front, '.' ∉ piece.toList)
    (into : StepsInto schema.catalog schema.root front steps last.type) (picks : last.Picks "") :
    ∃ path leaf, "" ∈ segments path ∧ schema.resolve path = .ok leaf := by
  -- The pieces have to be the segments of the path that they make, hence no dots in them.
  have pieces : segments (".".intercalate (front ++ [""])) = front ++ [""] := by
    rw [segments_eq_iff]
    refine ⟨by simp, ?_, rfl⟩
    intro piece member
    rcases List.mem_append.mp member with inside | atEnd
    · exact dotless piece inside
    · obtain rfl := List.mem_singleton.mp atEnd
      simp
  have resolved : schema.resolve (".".intercalate (front ++ [""])) =
      .ok (leafAfter schema.catalog (".".intercalate (front ++ [""])) steps last) := by
    apply resolve_eq_of_comesTo
    rw [pieces]
    exact .leaf into picks
  exact ⟨_, _, by simp [pieces], resolved⟩

/-- Paths with empty segments fail exactly if no field of the empty name can be got at. -/
theorem hidesEmpty_iff_fails :
    schema.HidesEmpty ↔
      ∀ path, "" ∈ segments path → ∃ segment ∈ segments path, ∃ typeName,
        schema.resolve path = .error (.invalidPath path segment typeName) := by
  refine ⟨fun hides path empty => hides.fails empty, ?_⟩
  intro fails pieces steps type dotless into slot field first
  by_contra readable
  have picks : (Step.mk type slot field).Picks "" := ⟨first, by simpa using readable⟩
  obtain ⟨path, leaf, empty, resolved⟩ := exists_resolve_eq_ok dotless into picks
  obtain ⟨segment, -, typeName, failed⟩ := fails path empty
  cases resolved.symm.trans failed

end Schema

/-- A document hides the empty name if no value is reached by keys of which one is empty.  Keys
with a dot in them do not count, since no path has them as a segment. -/
theorem Json.hidesEmpty_iff_at? {catalog : Catalog} {document : Json} :
    Schema.HidesEmpty ⟨catalog, document.record.type⟩ ↔
      ∀ keys, (∀ key ∈ keys, '.' ∉ key.toList) → "" ∈ keys → document.at? keys = none := by
  rw [Schema.hidesEmpty_iff_fails]
  constructor
  · intro fails keys dotless empty
    by_contra present
    obtain ⟨value, reached⟩ := Option.ne_none_iff_exists'.mp present
    obtain ⟨key, rest, rfl⟩ := List.exists_cons_of_ne_nil (List.ne_nil_of_mem empty)
    have pieces : segments (".".intercalate (key :: rest)) = key :: rest :=
      (segments_eq_iff _ _).mpr ⟨List.cons_ne_nil key rest, dotless, rfl⟩
    rw [← pieces] at empty
    obtain ⟨segment, -, typeName, failed⟩ := fails _ empty
    obtain ⟨leaf, walks⟩ := exists_walks_of_at? reached
    rw [← pieces] at walks
    cases failed.symm.trans (Schema.resolve_eq_ok_iff.mpr walks)
  · intro unreached path empty
    cases resolved : Schema.resolve ⟨catalog, document.record.type⟩ path with
    | error error =>
        obtain ⟨segment, member, typeName, rfl⟩ :=
          Schema.exists_segment_of_resolve_eq_error resolved
        exact ⟨segment, member, typeName, rfl⟩
    | ok leaf =>
        obtain ⟨value, reached, -⟩ := (Schema.resolve_eq_ok_iff.mp resolved).exists_at? rfl
        have dotless := ((segments_eq_iff path _).mp rfl).dotless
        cases (unreached (segments path) dotless empty).symm.trans reached

/-! ## Rules that are found to have empty segments -/

/-- The findings about an empty path and about an empty segment of a path. -/
inductive Finding.OfEmptySegment : Finding → Prop where
  | path (index : Nat) : OfEmptySegment (.emptyPath index)
  | segment (index : Nat) (path : String) : OfEmptySegment (.badSegment index path "")

theorem Rule.exists_ofEmptySegment_iff {rule : Rule} {known : List String} :
    (∃ finding ∈ rule.findings known, finding.OfEmptySegment) ↔
      ∃ criterion ∈ rule.criteria, "" ∈ segments criterion.path := by
  have single : segments "" = [""] := by decide
  constructor
  · rintro ⟨finding, member, kind⟩
    rcases mem_findings_iff.mp member with ⟨-, rfl⟩ | ⟨index, criterion, stands, onPath | onName⟩
    · cases kind
    · refine ⟨criterion, List.mem_of_getElem? stands, ?_⟩
      rcases mem_pathFindings_iff.mp onPath with ⟨empty, -⟩ | ⟨-, segment, piece, -, rfl⟩
      · simp [empty, single]
      · cases kind
        exact piece
    · obtain ⟨-, rfl⟩ := mem_operatorFindings_iff.mp onName
      cases kind
  · rintro ⟨criterion, member, piece⟩
    obtain ⟨index, stands⟩ := List.mem_iff_getElem?.mp member
    by_cases empty : criterion.path = ""
    · exact ⟨_, mem_findings_iff.mpr (.inr ⟨index, criterion, stands,
        .inl (mem_pathFindings_iff.mpr (.inl ⟨empty, rfl⟩))⟩), .path index⟩
    · exact ⟨_, mem_findings_iff.mpr (.inr ⟨index, criterion, stands,
        .inl (mem_pathFindings_iff.mpr (.inr ⟨empty, "", piece, rfl, rfl⟩))⟩),
        .segment index criterion.path⟩

theorem Rule.refused_of_empty_segment {schema : Schema} (hides : schema.HidesEmpty) {rule : Rule}
    {criterion : Criterion} (member : criterion ∈ rule.criteria)
    (empty : "" ∈ segments criterion.path) (registry : Registry) :
    ∃ error, (rule.prepare schema registry).value = .error error := by
  obtain ⟨segment, -, typeName, failed⟩ := hides.fails empty
  have refused : ∃ error, (criterion.prepare schema registry).value = .error error := by
    cases known : registry.strategy? criterion.operator with
    | none => exact ⟨_, Criterion.value_prepare_of_unknown known⟩
    | some strategy => exact ⟨_, Criterion.value_prepare_of_failed known failed⟩
  obtain ⟨error, refused⟩ := refused
  obtain ⟨index, stands⟩ := List.mem_iff_getElem?.mp member
  obtain ⟨first, other, reason, -, found⟩ := exists_firstRefused stands refused
  exact ⟨reason, prepare_eq_error_iff.mpr ⟨first, other, found⟩⟩

/-! ## Rules that never match -/

/-- A rule never matches a record of a schema: no evaluator of either kind answers that the rule
holds of one, or lists the rule, whatever other rules and options it has. -/
structure Rule.NeverMatches (rule : Rule) (schema : Schema) : Prop where
  unmatched : ∀ handle rules options evaluator record,
    HeldRule.Faithful (⟨handle, rule⟩ :: rules) →
    (Evaluator.withOptions schema rules options).value = .ok evaluator →
    (evaluator.matchesRule record ⟨handle, rule⟩).value ≠ .ok true
  unlisted : ∀ handle rules options evaluator record found, HeldRule.Faithful rules →
    (Evaluator.withOptions schema rules options).value = .ok evaluator →
    (evaluator.matchingRules record).value = .ok found → ⟨handle, rule⟩ ∉ found
  unmatchedLive : ∀ handle rules options (record : Record), record.type = schema.root →
    HeldRule.Faithful (⟨handle, rule⟩ :: rules) →
    (LiveEvaluator.matchesRule ⟨schema.catalog, rules, options⟩ (some record)
      ⟨handle, rule⟩).value ≠ .ok true
  unlistedLive : ∀ handle rules options (record : Record) found, record.type = schema.root →
    HeldRule.Faithful rules →
    (LiveEvaluator.matchingRules ⟨schema.catalog, rules, options⟩ (some record)).value =
      .ok found → ⟨handle, rule⟩ ∉ found

section Refused

variable {schema : Schema} {rule : Rule} {rules : List HeldRule} {options : Options}
  {evaluator : Evaluator}

theorem Evaluator.not_matchesRule_of_refused
    (built : (withOptions schema rules options).value = .ok evaluator)
    (refused : ∃ error, (rule.prepare schema options.registry).value = .error error) {handle : Nat}
    (faithful : HeldRule.Faithful (⟨handle, rule⟩ :: rules)) (record : Option Record) :
    (evaluator.matchesRule record ⟨handle, rule⟩).value ≠ .ok true := by
  cases record with
  | none => simp [matchesRule, Logged.value_quiet]
  | some record =>
      obtain ⟨error, prepared⟩ := refused
      rw [matchesRule, (represents_of_built built).value_matchesRule faithful record, prepared]
      intro matched
      cases matched

theorem Evaluator.not_mem_matchingRules_of_refused
    (built : (withOptions schema rules options).value = .ok evaluator)
    (refused : ∃ error, (rule.prepare schema options.registry).value = .error error)
    (faithful : HeldRule.Faithful rules) {record : Option Record} {found : List HeldRule}
    (listed : (evaluator.matchingRules record).value = .ok found) (handle : Nat) :
    ⟨handle, rule⟩ ∉ found := by
  intro member
  cases record with
  | none =>
      obtain rfl := Except.ok.inj listed
      cases member
  | some record =>
      rw [matchingRules, (represents_of_built built).value_matchingRules faithful record] at listed
      cases first : firstRefusal? schema options.registry rules with
      | some error =>
          rw [first] at listed
          cases listed
      | none =>
          -- Rules are listed only if all rules of the evaluator can be prepared.
          rw [first] at listed
          obtain rfl := Except.ok.inj listed
          obtain ⟨plan, prepared⟩ :=
            (firstRefusal?_eq_none_iff rules).mp first _ (List.mem_of_mem_filter member)
          obtain ⟨error, failed⟩ := refused
          cases failed.symm.trans prepared

theorem Rule.neverMatches_of_refused
    (refused : ∀ registry, ∃ error, (rule.prepare schema registry).value = .error error) :
    rule.NeverMatches schema where
  unmatched _ _ _ _ record faithful built :=
    Evaluator.not_matchesRule_of_refused built (refused _) faithful record
  unlisted handle _ _ _ _ _ faithful built listed :=
    Evaluator.not_mem_matchingRules_of_refused built (refused _) faithful listed handle
  unmatchedLive handle rules options record typed faithful := by
    have answers := LiveEvaluator.answersAs_withOptions rules options typed
    rw [answers.matchesRule_eq, Logged.value_andThenOk]
    cases built : (Evaluator.withOptions schema rules options).value with
    | error error =>
        intro matched
        cases matched
    | ok evaluator =>
        exact Evaluator.not_matchesRule_of_refused built (refused _) faithful (some record)
  unlistedLive handle rules options record found typed faithful listed := by
    have answers := LiveEvaluator.answersAs_withOptions rules options typed
    rw [answers.matchingRules_eq, Logged.value_andThenOk] at listed
    cases built : (Evaluator.withOptions schema rules options).value with
    | error error =>
        rw [built] at listed
        cases listed
    | ok evaluator =>
        rw [built] at listed
        exact Evaluator.not_mem_matchingRules_of_refused built (refused _) faithful listed handle

end Refused

/-- Paths with empty segments all fail, and rules with them never match, exactly if no readable
field of the empty name can be got at: in a document, if no value lies behind an empty key. -/
theorem Schema.empty_segments_fail_unless_named (schema : Schema) :
    (∀ path front rest steps type, segments path = front ++ "" :: rest →
      StepsInto schema.catalog schema.root front steps type → type.HidesEmpty →
      schema.resolve path = .error (.invalidPath path "" type.name)) ∧
    (schema.HidesEmpty ↔
      ∀ path, "" ∈ segments path → ∃ segment ∈ segments path, ∃ typeName,
        schema.resolve path = .error (.invalidPath path segment typeName)) ∧
    (∀ document : Json, schema.root = document.record.type →
      (schema.HidesEmpty ↔
        ∀ keys, (∀ key ∈ keys, '.' ∉ key.toList) → "" ∈ keys → document.at? keys = none)) ∧
    (schema.HidesEmpty → ∀ (rule : Rule) known finding, finding ∈ rule.findings known →
      finding.OfEmptySegment →
      (∀ registry, ∃ error, (rule.prepare schema registry).value = .error error) ∧
      rule.NeverMatches schema) := by
  refine ⟨fun path front rest steps type split into hides =>
    resolve_at_empty_segment split into hides, hidesEmpty_iff_fails, ?_, ?_⟩
  · intro document typed
    obtain ⟨catalog, root⟩ := schema
    obtain rfl := typed
    exact Json.hidesEmpty_iff_at?
  · intro hides rule known finding member kind
    obtain ⟨criterion, listed, empty⟩ :=
      Rule.exists_ofEmptySegment_iff.mp ⟨finding, member, kind⟩
    have refused := Rule.refused_of_empty_segment hides listed empty
    exact ⟨refused, Rule.neverMatches_of_refused refused⟩

/-- Surveys lead to surveys, whose field of the empty name may only be written. -/
theorem Schema.empty_segments_fail_along_surveys :
    let survey : RecordType :=
      ⟨"Survey", [⟨"", .scalar .text, false, false⟩, ⟨"Next", .declared "Survey", true, true⟩]⟩
    let schema : Schema := ⟨fun _ => survey, survey⟩
    let rule : Rule := ⟨"last", [⟨"Next..Next", "IsNull", none⟩]⟩
    schema.HidesEmpty ∧
      schema.resolve "Next..Next" = .error (.invalidPath "Next..Next" "" "Survey") ∧
      (∃ segment ∈ segments "Next.", ∃ typeName,
        schema.resolve "Next." = .error (.invalidPath "Next." segment typeName)) ∧
      .badSegment 0 "Next..Next" "" ∈ rule.findings [] ∧ rule.NeverMatches schema := by
  intro survey schema rule
  have hidden : survey.HidesEmpty := RecordType.readable?_eq_none_iff.mp rfl
  have hides : schema.HidesEmpty := by
    refine hidesEmpty_of_closed (· = survey) rfl ?_ ?_
    · rintro _ rfl field member inner enters
      rcases List.mem_pair.mp member with rfl | rfl
      · cases enters
      · exact (Option.some.inj enters).symm
    · rintro _ rfl
      exact hidden
  have picks : (Step.mk survey 1 ⟨"Next", .declared "Survey", true, true⟩).Picks "Next" :=
    Step.picks_iff.mpr rfl
  have finding : .badSegment 0 "Next..Next" "" ∈ rule.findings [] := by decide
  obtain ⟨atSegment, fails, -, never⟩ := schema.empty_segments_fail_unless_named
  obtain ⟨-, neverMatches⟩ := never hides rule [] _ finding (.segment 0 "Next..Next")
  exact ⟨hides, atSegment "Next..Next" ["Next"] ["Next"] _ survey (by decide)
    (.step picks rfl .here) hidden, fails.mp hides "Next." (by decide), finding, neverMatches⟩

/-- A rule of the empty path matches a document with an empty key, although the path is found to
be empty. -/
theorem Schema.empty_path_resolves_to_empty_key :
    let document : Json := .object [("", .text "x")]
    let schema : Schema := ⟨fun _ => default, document.record.type⟩
    let rule : Rule := ⟨"named", [⟨"", "Equal", some "x"⟩]⟩
    let held : HeldRule := ⟨0, rule⟩
    let leaf : Leaf :=
      { path := "", owner := "JsonObject", type := .scalar .text, typeName := "String"
        nullable := true, nullableParent := false, slots := [0] }
    "" ∈ segments "" ∧ schema.resolve "" = .ok leaf ∧
      .emptyPath 0 ∈ rule.findings Registry.builtIn.names ∧
      (LiveEvaluator.matchesRule ⟨schema.catalog, [held], {}⟩ (some document.record) held).value =
        .ok true := by
  intro document schema rule held leaf
  have criticised : .emptyPath 0 ∈ rule.findings Registry.builtIn.names :=
    Rule.mem_findings_iff.mpr (.inr ⟨0, ⟨"", "Equal", some "x"⟩, rfl,
      .inl (mem_pathFindings_iff.mpr (.inl ⟨rfl, rfl⟩))⟩)
  have matched : (LiveEvaluator.matchesRule
      ⟨fun _ => default, [⟨0, ⟨"named", [⟨"", "Equal", some "x"⟩]⟩⟩], {}⟩
      (some (Json.record (.object [("", .text "x")])))
      ⟨0, ⟨"named", [⟨"", "Equal", some "x"⟩]⟩⟩).value = .ok true := rfl
  exact ⟨by decide, rfl, criticised, matched⟩

end RecordRules
