import Mathlib.Data.List.Forall2
import RecordRules.Proofs.Record.Resolution
import RecordRules.Proofs.Rule.UnknownOperators
import RecordRules.Proofs.Text.AsciiCase
import RecordRules.Proofs.Text.Trimming

/-!
# The grammar of rules

A path is well formed if it consists of identifiers with single dots between them, and a rule if
it has criteria and all of them have well-formed paths and operators that are registered.  The
findings about a rule are none exactly if it is well formed.  Otherwise they are the account of
its defects: one message for each, by the order of the criteria and inside a criterion by the
order of the segments, with the operator at the end.
-/

namespace RecordRules

/-! ## Accounts -/

/-- Whether messages tell of all places that there is something to tell of, in the order of the
places and once of each. -/
structure Accounts {Place : Type} (before : Place → Place → Prop)
    (tells : Place → String → Prop) (places : List Place) (messages : List String) : Prop where
  ordered : places.Pairwise before
  told : List.Forall₂ tells places messages
  complete : ∀ place message, tells place message → place ∈ places

namespace Accounts

variable {Place : Type} {before : Place → Place → Prop} {tells later : Place → String → Prop}
  {places others : List Place} {messages rest : List String}

theorem exists_tells (account : Accounts before tells places messages) {place : Place}
    (member : place ∈ places) : ∃ message, tells place message := by
  have told := account.told
  clear account
  induction told with
  | nil => cases member
  | cons tells _ ih =>
      rcases List.mem_cons.mp member with rfl | behind
      · exact ⟨_, tells⟩
      · exact ih behind

theorem nil (silent : ∀ place message, ¬ tells place message) : Accounts before tells [] [] where
  ordered := .nil
  told := .nil
  complete place message tells := absurd tells (silent place message)

theorem singleton {place : Place} {message : String} (told : tells place message)
    (only : ∀ other message, tells other message → other = place) :
    Accounts before tells [place] [message] where
  ordered := List.pairwise_singleton before place
  told := .cons told .nil
  complete other message told := List.mem_singleton.mpr (only other message told)

/-- Accounts of earlier and of later places make one account. -/
theorem append (front : Accounts before tells places messages)
    (back : Accounts before later others rest)
    (apart : ∀ place ∈ places, ∀ other ∈ others, before place other) :
    Accounts before (fun place message => tells place message ∨ later place message)
      (places ++ others) (messages ++ rest) where
  ordered := List.pairwise_append.mpr ⟨front.ordered, back.ordered, apart⟩
  told := List.rel_append
    (front.told.imp fun _ _ told => .inl told) (back.told.imp fun _ _ told => .inr told)
  complete place message told := by
    rcases told with inFront | inBack
    · exact List.mem_append_left _ (front.complete place message inFront)
    · exact List.mem_append_right _ (back.complete place message inBack)

theorem congr (account : Accounts before tells places messages)
    (same : ∀ place message, tells place message ↔ later place message) :
    Accounts before later places messages where
  ordered := account.ordered
  told := account.told.imp fun place message => (same place message).mp
  complete place message told := account.complete place message ((same place message).mpr told)

theorem map (account : Accounts before tells places messages) {Large : Type} (put : Place → Large)
    {ahead : Large → Large → Prop} (keeps : ∀ place other, before place other →
      ahead (put place) (put other)) :
    Accounts ahead (fun large message => ∃ place, put place = large ∧ tells place message)
      (places.map put) messages where
  ordered := account.ordered.map put keeps
  told := List.forall₂_map_left_iff.mpr (account.told.imp fun place _ told => ⟨place, rfl, told⟩)
  complete := by
    rintro large message ⟨place, rfl, told⟩
    exact List.mem_map_of_mem (account.complete place message told)

/-- Where no place is before itself and no two are before each other, and a place has one
message, there is one account. -/
theorem messages_eq (account : Accounts before tells places messages)
    (other : Accounts before tells others rest)
    (asymmetric : ∀ place next, before place next → ¬ before next place)
    (single : ∀ place message same, tells place message → tells place same → message = same) :
    messages = rest := by
  have distinct : ∀ {listed : List Place}, listed.Pairwise before → listed.Nodup := by
    intro listed ordered
    refine ordered.imp fun {place next} ahead => ?_
    rintro rfl
    exact asymmetric place place ahead ahead
  have contains : ∀ place, place ∈ places ↔ place ∈ others := by
    intro place
    constructor
    · intro member
      obtain ⟨message, told⟩ := account.exists_tells member
      exact other.complete place message told
    · intro member
      obtain ⟨message, told⟩ := other.exists_tells member
      exact account.complete place message told
  have permuted : places.Perm others :=
    (List.perm_ext_iff_of_nodup (distinct account.ordered) (distinct other.ordered)).mpr contains
  obtain rfl : places = others :=
    permuted.eq_of_pairwise
      (fun place next _ _ ahead behind => absurd behind (asymmetric place next ahead))
      account.ordered other.ordered
  exact List.right_unique_forall₂' (fun place message same => single place message same)
    account.told other.told

end Accounts

/-! ## Well-formed rules -/

def IsLetter (c : Char) : Prop :=
  'A' ≤ c ∧ c ≤ 'Z' ∨ 'a' ≤ c ∧ c ≤ 'z'

/-- A letter, an underscore or an `@`, and behind it letters, digits and underscores to the end. -/
inductive Identifier (segment : String) : Prop where
  | intro {first : Char} {rest : List Char} (spelled : segment.toList = first :: rest)
      (starts : IsLetter first ∨ first = '_' ∨ first = '@')
      (continues : ∀ c ∈ rest, IsLetter c ∨ '0' ≤ c ∧ c ≤ '9' ∨ c = '_') : Identifier segment

/-- At least one identifier, and single dots between them. -/
def WellFormedPath (path : String) : Prop :=
  ∃ names, names ≠ [] ∧ (∀ name ∈ names, Identifier name) ∧ ".".intercalate names = path

/-- Criteria, each with a well-formed path and a registered operator. -/
structure Rule.WellFormed (registry : Registry) (rule : Rule) : Prop where
  criteria : rule.criteria ≠ []
  paths : ∀ criterion ∈ rule.criteria, WellFormedPath criterion.path
  operators : ∀ criterion ∈ rule.criteria,
    ∃ strategy, registry.strategy? criterion.operator = some strategy

theorem isLetter_iff {c : Char} : IsLetter c ↔ Text.isAsciiLetter c = true := by
  simp [IsLetter, Text.isAsciiLetter, Text.isAsciiUpper]

theorem isIdentifier_iff {segment : String} : isIdentifier segment = true ↔ Identifier segment := by
  unfold isIdentifier
  constructor
  · intro accepted
    split at accepted
    · cases accepted
    · next first rest spelled =>
        simp only [Bool.and_eq_true, isIdentifierStart, isIdentifierRest, Bool.or_eq_true,
          ← isLetter_iff, beq_iff_eq, or_assoc, List.all_eq_true, Text.isDigit,
          decide_eq_true_eq] at accepted
        exact .intro spelled accepted.1 accepted.2
  · rintro ⟨spelled, starts, continues⟩
    rw [spelled]
    simp only [Bool.and_eq_true, isIdentifierStart, isIdentifierRest, Bool.or_eq_true,
      ← isLetter_iff, beq_iff_eq, or_assoc, List.all_eq_true, Text.isDigit, decide_eq_true_eq]
    exact ⟨starts, continues⟩

theorem Identifier.code_mem {segment : String} (identifier : Identifier segment) :
    ∀ c ∈ segment.toList, 48 ≤ c.toNat ∧ c.toNat ≤ 122 := by
  obtain ⟨spelled, starts, continues⟩ := identifier
  have letter : ∀ {c : Char}, IsLetter c → 48 ≤ c.toNat ∧ c.toNat ≤ 122 := by
    intro c isLetter
    have codes := Text.isAsciiLetter_iff.mp (isLetter_iff.mp isLetter)
    omega
  intro c member
  rw [spelled] at member
  rcases List.mem_cons.mp member with rfl | behind
  · rcases starts with isLetter | rfl | rfl
    · exact letter isLetter
    · decide
    · decide
  · rcases continues c behind with isLetter | digit | rfl
    · exact letter isLetter
    · have codes := Text.isDigit_iff.mp (by simpa [Text.isDigit] using digit)
      omega
    · decide

theorem Identifier.dotless {segment : String} (identifier : Identifier segment) :
    '.' ∉ segment.toList := by
  intro member
  obtain ⟨low, -⟩ := identifier.code_mem '.' member
  exact absurd low (by decide)

theorem not_identifier_empty : ¬ Identifier "" := by
  rintro ⟨spelled, -, -⟩
  cases spelled

/-- A path is well formed if its pieces are identifiers. -/
theorem PiecesOf.wellFormedPath_iff {path : String} {pieces : List String}
    (divides : PiecesOf path pieces) :
    WellFormedPath path ↔ ∀ piece ∈ pieces, Identifier piece := by
  constructor
  · rintro ⟨names, nonempty, identifiers, joined⟩
    have same : names = pieces := by
      have namesDivide : PiecesOf path names :=
        ⟨nonempty, fun name member => (identifiers name member).dotless, joined⟩
      exact ((segments_eq_iff path names).mpr namesDivide).symm.trans
        ((segments_eq_iff path pieces).mpr divides)
    exact same ▸ identifiers
  · intro identifiers
    exact ⟨pieces, divides.nonempty, identifiers, divides.joined⟩

/-! ## Defects -/

inductive Flaw where
  | emptyPath
  | badSegment (position : Nat)
  | unknownOperator

/-- The order in which flaws of a criterion are told. -/
inductive Flaw.Before : Flaw → Flaw → Prop where
  | segments {position next : Nat} (ahead : position < next) :
      Before (.badSegment position) (.badSegment next)
  | segment {position : Nat} : Before (.badSegment position) .unknownOperator
  | path : Before .emptyPath .unknownOperator

inductive Defect where
  | noCriteria
  | inCriterion (index : Nat) (flaw : Flaw)

/-- The order in which defects are told. -/
inductive Defect.Before : Defect → Defect → Prop where
  | criteria {index next : Nat} {flaw other : Flaw} (ahead : index < next) :
      Before (.inCriterion index flaw) (.inCriterion next other)
  | flaws {index : Nat} {flaw other : Flaw} (ahead : flaw.Before other) :
      Before (.inCriterion index flaw) (.inCriterion index other)

/-- The flaws of the criterion at an index, and the message of each. -/
inductive Criterion.Tells (registry : Registry) (index : Nat) (criterion : Criterion) :
    Flaw → String → Prop where
  | emptyPath (empty : criterion.path = "") :
      Tells registry index criterion .emptyPath s!"条件 criteria[{index}] 的属性路径为空"
  | badSegment {pieces : List String} {position : Nat} {piece : String}
      (filled : criterion.path ≠ "") (divides : PiecesOf criterion.path pieces)
      (stands : pieces[position]? = some piece) (bad : ¬ Identifier piece) :
      Tells registry index criterion (.badSegment position)
        s!"条件 criteria[{index}] 的属性路径 '{criterion.path}' 中的片段 '{piece}' 不是合法标识符"
  | unknownOperator (unknown : registry.strategy? criterion.operator = none) :
      Tells registry index criterion .unknownOperator
        s!"条件 criteria[{index}] 使用了未知操作符 '{criterion.operator}'"

/-- The defects of a rule, and the message of each. -/
inductive Rule.Tells (registry : Registry) (rule : Rule) : Defect → String → Prop where
  | noCriteria (none : rule.criteria = []) :
      Tells registry rule .noCriteria s!"规则 '{rule.name}' 没有任何条件"
  | inCriterion {index : Nat} {criterion : Criterion} {flaw : Flaw} {message : String}
      (stands : rule.criteria[index]? = some criterion)
      (told : criterion.Tells registry index flaw message) :
      Tells registry rule (.inCriterion index flaw) message

theorem Flaw.Before.asymmetric {flaw other : Flaw} (ahead : flaw.Before other) :
    ¬ other.Before flaw := by
  intro behind
  cases ahead with
  | segments ahead =>
      cases behind with
      | segments behind => exact absurd ahead (Nat.lt_asymm behind)
  | segment => cases behind
  | path => cases behind

theorem Defect.Before.asymmetric {defect other : Defect} (ahead : defect.Before other) :
    ¬ other.Before defect := by
  intro behind
  cases ahead with
  | criteria ahead =>
      cases behind with
      | criteria behind => exact absurd ahead (Nat.lt_asymm behind)
      | flaws _ => exact absurd ahead (Nat.lt_irrefl _)
  | flaws ahead =>
      cases behind with
      | criteria behind => exact absurd behind (Nat.lt_irrefl _)
      | flaws behind => exact ahead.asymmetric behind

theorem Criterion.Tells.message_eq {registry : Registry} {index : Nat} {criterion : Criterion}
    {flaw : Flaw} {message same : String} (first : criterion.Tells registry index flaw message)
    (second : criterion.Tells registry index flaw same) : message = same := by
  cases first with
  | emptyPath _ =>
      cases second
      rfl
  | badSegment _ divides stands _ =>
      cases second with
      | badSegment _ divides' stands' _ =>
          obtain rfl := ((segments_eq_iff _ _).mpr divides).symm.trans
            ((segments_eq_iff _ _).mpr divides')
          obtain rfl := Option.some.inj (stands.symm.trans stands')
          rfl
  | unknownOperator _ =>
      cases second
      rfl

theorem Rule.Tells.message_eq {registry : Registry} {rule : Rule} {defect : Defect}
    {message same : String} (first : rule.Tells registry defect message)
    (second : rule.Tells registry defect same) : message = same := by
  cases first with
  | noCriteria _ =>
      cases second
      rfl
  | inCriterion stands told =>
      cases second with
      | inCriterion stands' told' =>
          obtain rfl := Option.some.inj (stands.symm.trans stands')
          exact told.message_eq told'

/-! ## Findings as accounts -/

/-- The pieces that are no identifiers are told of in their order. -/
theorem exists_account_of_pieces (index : Nat) (path : String) (start : Nat)
    (pieces : List String) :
    ∃ positions, Accounts (· < ·)
      (fun position message => ∃ piece, (piece, position) ∈ pieces.zipIdx start ∧
        ¬ Identifier piece ∧ (Finding.badSegment index path piece).message = message)
      positions
      (((pieces.filter (!isIdentifier ·)).map (Finding.badSegment index path)).map
        (·.message)) := by
  induction pieces generalizing start with
  | nil => exact ⟨[], .nil (by simp)⟩
  | cons piece rest ih =>
      obtain ⟨positions, others⟩ := ih (start + 1)
      by_cases identifier : Identifier piece
      · refine ⟨positions, ?_⟩
        rw [List.filter_cons_of_neg (by simp [isIdentifier_iff.mpr identifier])]
        refine others.congr fun position message => ?_
        simp [or_and_right, exists_or, identifier]
      · have behind : ∀ position ∈ positions, start < position := by
          intro position member
          obtain ⟨message, other, stands, -⟩ := others.exists_tells member
          exact List.le_snd_of_mem_zipIdx stands
        have here : Accounts (· < ·)
            (fun position message => position = start ∧
              (Finding.badSegment index path piece).message = message)
            [start] [(Finding.badSegment index path piece).message] :=
          .singleton ⟨rfl, rfl⟩ fun other message told => told.1
        refine ⟨[start] ++ positions, ?_⟩
        rw [List.filter_cons_of_pos (by simpa [← isIdentifier_iff] using identifier)]
        refine (here.append others ?_).congr fun position message => ?_
        · simpa using behind
        · simp [or_and_right, exists_or, identifier, and_comm]

section Criterion

variable (registry : Registry) (index : Nat) (criterion : Criterion)

theorem Criterion.exists_account_of_path :
    ∃ flaws, Accounts Flaw.Before
      (fun flaw message => flaw ≠ .unknownOperator ∧ criterion.Tells registry index flaw message)
      flaws ((pathFindings index criterion.path).map (·.message)) := by
  by_cases empty : criterion.path = ""
  · refine ⟨[.emptyPath], ?_⟩
    rw [pathFindings, if_pos (by simp [empty])]
    refine .singleton ⟨by rintro ⟨⟩, .emptyPath empty⟩ ?_
    rintro flaw message ⟨ofPath, told⟩
    cases told with
    | emptyPath _ => rfl
    | badSegment filled _ _ _ => exact absurd empty filled
    | unknownOperator _ => contradiction
  · obtain ⟨positions, account⟩ :=
      exists_account_of_pieces index criterion.path 0 (segments criterion.path)
    have divides := (segments_eq_iff criterion.path _).mp rfl
    refine ⟨positions.map .badSegment, ?_⟩
    rw [pathFindings, if_neg (by simpa using empty)]
    refine (account.map Flaw.badSegment fun _ _ => .segments).congr fun flaw message => ?_
    simp only [List.mk_mem_zipIdx_iff_getElem?]
    constructor
    · rintro ⟨position, rfl, piece, stands, bad, rfl⟩
      exact ⟨by rintro ⟨⟩, .badSegment empty divides stands bad⟩
    · rintro ⟨ofPath, told⟩
      cases told with
      | emptyPath none => exact absurd none empty
      | @badSegment pieces position piece _ divides' stands bad =>
          obtain rfl := (segments_eq_iff _ _).mpr divides'
          exact ⟨position, rfl, piece, stands, bad, rfl⟩
      | unknownOperator _ => contradiction

theorem Criterion.exists_account_of_operator :
    ∃ flaws, Accounts Flaw.Before
      (fun flaw message => flaw = .unknownOperator ∧ criterion.Tells registry index flaw message)
      flaws ((operatorFindings registry.names index criterion.operator).map (·.message)) := by
  by_cases listed : criterion.operator ∈ registry.names
  · refine ⟨[], ?_⟩
    rw [operatorFindings, if_pos (by simpa using listed)]
    refine .nil ?_
    rintro flaw message ⟨rfl, told⟩
    cases told with
    | unknownOperator unknown => exact Registry.not_mem_names_iff.mpr unknown listed
  · refine ⟨[.unknownOperator], ?_⟩
    rw [operatorFindings, if_neg (by simpa using listed)]
    exact .singleton ⟨rfl, .unknownOperator (Registry.not_mem_names_iff.mp listed)⟩
      fun flaw message told => told.1

theorem Criterion.exists_account :
    ∃ flaws, Accounts Flaw.Before (criterion.Tells registry index) flaws
      ((pathFindings index criterion.path ++
        operatorFindings registry.names index criterion.operator).map (·.message)) := by
  obtain ⟨flaws, ofPath⟩ := criterion.exists_account_of_path registry index
  obtain ⟨last, ofOperator⟩ := criterion.exists_account_of_operator registry index
  refine ⟨flaws ++ last, ?_⟩
  rw [List.map_append]
  refine (ofPath.append ofOperator ?_).congr fun flaw message => ?_
  · intro flaw member other lastMember
    obtain ⟨-, beforeOperator, -⟩ := ofPath.exists_tells member
    obtain ⟨-, rfl, -⟩ := ofOperator.exists_tells lastMember
    cases flaw with
    | emptyPath => exact .path
    | badSegment position => exact .segment
    | unknownOperator => contradiction
  · by_cases operator : flaw = .unknownOperator
    · simp [operator]
    · simp [operator]

end Criterion

theorem exists_account_of_criteria (registry : Registry) (start : Nat)
    (criteria : List Criterion) :
    ∃ defects, Accounts Defect.Before
      (fun defect message => ∃ criterion index flaw, (criterion, index) ∈ criteria.zipIdx start ∧
        .inCriterion index flaw = defect ∧ criterion.Tells registry index flaw message)
      defects ((criteriaFindings registry.names start criteria).map (·.message)) := by
  induction criteria generalizing start with
  | nil => exact ⟨[], .nil (by simp)⟩
  | cons criterion rest ih =>
      obtain ⟨defects, others⟩ := ih (start + 1)
      obtain ⟨flaws, own⟩ := criterion.exists_account registry start
      have here := own.map (Defect.inCriterion start) fun _ _ => Defect.Before.flaws
      refine ⟨flaws.map (.inCriterion start) ++ defects, ?_⟩
      rw [criteriaFindings, List.map_append]
      refine (here.append others ?_).congr fun defect message => ?_
      · intro defect member other behind
        obtain ⟨flaw, -, rfl⟩ := List.mem_map.mp member
        obtain ⟨_, _, index, otherFlaw, stands, rfl, -⟩ := others.exists_tells behind
        exact .criteria (List.le_snd_of_mem_zipIdx stands)
      · simp only [List.zipIdx_cons, List.mem_cons, Prod.mk.injEq]
        constructor
        · rintro (⟨flaw, rfl, told⟩ | ⟨other, index, flaw, stands, rfl, told⟩)
          · exact ⟨criterion, start, flaw, .inl ⟨rfl, rfl⟩, rfl, told⟩
          · exact ⟨other, index, flaw, .inr stands, rfl, told⟩
        · rintro ⟨other, index, flaw, ⟨rfl, rfl⟩ | stands, rfl, told⟩
          · exact .inl ⟨flaw, rfl, told⟩
          · exact .inr ⟨other, index, flaw, stands, rfl, told⟩

theorem Rule.exists_account (registry : Registry) (rule : Rule) :
    ∃ defects, Accounts Defect.Before (rule.Tells registry) defects
      ((rule.findings registry.names).map (·.message)) := by
  by_cases none : rule.criteria = []
  · refine ⟨[.noCriteria], ?_⟩
    rw [findings, none]
    refine .singleton (.noCriteria none) ?_
    rintro defect message told
    cases told with
    | noCriteria _ => rfl
    | @inCriterion index criterion flaw _ stands _ => simp [none] at stands
  · obtain ⟨defects, account⟩ := exists_account_of_criteria registry 0 rule.criteria
    refine ⟨defects, ?_⟩
    rw [findings, if_neg (by simpa using none), List.nil_append]
    refine account.congr fun defect message => ?_
    simp only [List.mk_mem_zipIdx_iff_getElem?]
    constructor
    · rintro ⟨criterion, index, flaw, stands, rfl, told⟩
      exact .inCriterion stands told
    · intro told
      cases told with
      | noCriteria empty => exact absurd empty none
      | @inCriterion index criterion flaw _ stands told =>
          exact ⟨criterion, index, flaw, stands, rfl, told⟩

/-- A criterion without flaws has a well-formed path and a registered operator. -/
theorem Criterion.not_tells_iff (registry : Registry) (index : Nat) (criterion : Criterion) :
    (∀ flaw message, ¬ criterion.Tells registry index flaw message) ↔
      WellFormedPath criterion.path ∧
        ∃ strategy, registry.strategy? criterion.operator = some strategy := by
  have divides := (segments_eq_iff criterion.path _).mp rfl
  rw [divides.wellFormedPath_iff, ← Option.isSome_iff_exists]
  constructor
  · intro silent
    have filled : criterion.path ≠ "" := fun empty => silent _ _ (.emptyPath empty)
    refine ⟨fun piece member => ?_, ?_⟩
    · obtain ⟨position, stands⟩ := List.mem_iff_getElem?.mp member
      by_contra bad
      exact silent _ _ (.badSegment filled divides stands bad)
    · by_contra unknown
      exact silent _ _ (.unknownOperator (by simpa using unknown))
  · rintro ⟨identifiers, known⟩ flaw message told
    cases told with
    | emptyPath empty =>
        have single : segments criterion.path = [""] := by
          rw [empty]
          rfl
        exact not_identifier_empty (identifiers "" (by simp [single]))
    | badSegment _ divides' stands bad =>
        obtain rfl := (segments_eq_iff _ _).mpr divides'
        exact bad (identifiers _ (List.mem_of_getElem? stands))
    | unknownOperator unknown => simp [unknown] at known

theorem Rule.not_tells_iff (registry : Registry) (rule : Rule) :
    (∀ defect message, ¬ rule.Tells registry defect message) ↔ rule.WellFormed registry := by
  constructor
  · intro silent
    have each : ∀ criterion ∈ rule.criteria, WellFormedPath criterion.path ∧
        ∃ strategy, registry.strategy? criterion.operator = some strategy := by
      intro criterion member
      obtain ⟨index, stands⟩ := List.mem_iff_getElem?.mp member
      exact (criterion.not_tells_iff registry index).mp fun flaw message told =>
        silent _ _ (.inCriterion stands told)
    exact ⟨fun none => silent _ _ (.noCriteria none), fun criterion member =>
      (each criterion member).1, fun criterion member => (each criterion member).2⟩
  · rintro ⟨criteria, paths, operators⟩ defect message told
    cases told with
    | noCriteria none => exact criteria none
    | @inCriterion index criterion flaw _ stands told =>
        have member := List.mem_of_getElem? stands
        exact (criterion.not_tells_iff registry index).mpr
          ⟨paths criterion member, operators criterion member⟩ flaw message told

/-- There are no findings about a rule exactly if it is well formed.  The messages about a rule
are its only account, which tells of each defect once and in order. -/
theorem Rule.findings_account_for_grammar (registry : Registry) (rule : Rule) :
    ((rule.findings registry.names).map (·.message) = [] ↔ rule.WellFormed registry) ∧
      ∀ messages, (rule.findings registry.names).map (·.message) = messages ↔
        ∃ defects, Accounts Defect.Before (rule.Tells registry) defects messages := by
  obtain ⟨defects, account⟩ := rule.exists_account registry
  constructor
  · rw [← not_tells_iff]
    constructor
    · intro silent defect message told
      have nowhere : defects = [] := by
        have paired := account.told
        rwa [silent, List.forall₂_nil_right_iff] at paired
      exact absurd (account.complete defect message told) (by simp [nowhere])
    · intro silent
      exact account.messages_eq (.nil silent) (fun _ _ => Defect.Before.asymmetric)
        fun _ _ _ => Tells.message_eq
  · intro messages
    constructor
    · rintro rfl
      exact ⟨defects, account⟩
    · rintro ⟨others, other⟩
      exact account.messages_eq other (fun _ _ => Defect.Before.asymmetric)
        fun _ _ _ => Tells.message_eq

/-- Both bad segments of a path are told before its operator, and the next criterion after them. -/
example : Rule.findings ["Equal", "IsNull"]
    ⟨"r", [⟨"a..2b", "equal", none⟩, ⟨"", "Equal", some "x"⟩]⟩ =
      [.badSegment 0 "a..2b" "", .badSegment 0 "a..2b" "2b", .unknownOperator 0 "equal",
        .emptyPath 1] := by
  decide

end RecordRules
