import RecordRules.Proofs.Record.Walk

/-!
# Paths step by step

What a path resolves to is told here by the steps along its pieces, and not by how it is
found.  A step picks the first field of a piece's name on a record type, and that field has
to be readable; every step but the last leads into a record.  Resolving gives the leaf at
the end of the steps, or the error of the first piece at which no step can be made.
-/

namespace RecordRules

/-! ## The pieces of a path -/

/-- The pieces of a path: texts without dots that give the path with dots between them. -/
structure PiecesOf (path : String) (pieces : List String) : Prop where
  nonempty : pieces ≠ []
  dotless : ∀ piece ∈ pieces, '.' ∉ piece.toList
  joined : ".".intercalate pieces = path

theorem not_mem_of_mem_splitOn {α : Type} [BEq α] [LawfulBEq α] {separator : α}
    {whole part : List α} (member : part ∈ whole.splitOn separator) : separator ∉ part := by
  induction whole generalizing part with
  | nil =>
      rw [List.splitOn_nil, List.mem_singleton] at member
      simp [member]
  | cons first rest ih =>
      rw [List.splitOn_cons_eq_if_modifyHead] at member
      split at member
      · rcases List.mem_cons.mp member with rfl | later
        · exact List.not_mem_nil
        · exact ih later
      · next other =>
          cases split_eq : rest.splitOn separator with
          | nil => exact absurd split_eq (List.splitOn_ne_nil separator rest)
          | cons head tail =>
              rw [split_eq, List.modifyHead_cons] at member
              rcases List.mem_cons.mp member with rfl | later
              · have apart : separator ∉ head := ih (split_eq ▸ List.mem_cons_self)
                rw [List.mem_cons, not_or]
                exact ⟨fun same => other (beq_iff_eq.mpr same.symm), apart⟩
              · exact ih (split_eq ▸ List.mem_cons_of_mem _ later)

/-- The segments of a path are its pieces, and a path has no others. -/
theorem segments_eq_iff (path : String) (pieces : List String) :
    segments path = pieces ↔ PiecesOf path pieces := by
  constructor
  · rintro rfl
    refine ⟨segments_ne_nil path, ?_, ?_⟩
    · intro piece member
      obtain ⟨part, split, rfl⟩ := List.mem_map.mp member
      rw [String.toList_ofList]
      exact not_mem_of_mem_splitOn split
    · apply String.toList_inj.mp
      have parts : (segments path).map String.toList = path.toList.splitOn '.' := by
        simp [segments, Function.comp_def]
      rw [String.toList_intercalate, parts]
      exact List.intercalate_splitOn '.'
  · rintro ⟨nonempty, dotless, rfl⟩
    have parts : (".".intercalate pieces).toList.splitOn '.' = pieces.map String.toList := by
      rw [String.toList_intercalate]
      apply List.splitOn_intercalate
      · intro part member
        obtain ⟨piece, listed, rfl⟩ := List.mem_map.mp member
        exact dotless piece listed
      · simpa using nonempty
    rw [segments, parts, List.map_map]
    simp [Function.comp_def]

/-! ## Steps -/

namespace RecordType

/-- A field is the first of its name: it stands in the slot, and none before it has the name. -/
structure First (type : RecordType) (name : String) (slot : Nat) (field : Field FieldType) :
    Prop where
  stands : type.fields[slot]? = some field
  named : field.name = name
  foremost : ∀ (earlier : Nat) (other : Field FieldType), earlier < slot →
    type.fields[earlier]? = some other → other.name ≠ name

theorem findFrom_eq_some_iff {name : String} {start slot : Nat} {field : Field FieldType}
    {fields : List (Field FieldType)} :
    findFrom name start fields = some (slot, field) ↔
      ∃ offset, slot = start + offset ∧ fields[offset]? = some field ∧ field.name = name ∧
        ∀ earlier other, earlier < offset → fields[earlier]? = some other →
          other.name ≠ name := by
  induction fields generalizing start with
  | nil => simp [findFrom]
  | cons first rest ih =>
      by_cases named : first.name = name
      · rw [findFrom, if_pos named]
        constructor
        · intro found
          obtain ⟨rfl, rfl⟩ := Prod.mk.inj (Option.some.inj found)
          exact ⟨0, rfl, rfl, named, fun earlier _ before _ => absurd before (by omega)⟩
        · rintro ⟨offset, rfl, stands, -, foremost⟩
          cases offset with
          | zero =>
              obtain rfl := Option.some.inj stands
              rfl
          | succ offset => exact absurd named (foremost 0 first (by omega) rfl)
      · rw [findFrom, if_neg named, ih]
        constructor
        · rintro ⟨offset, rfl, stands, fieldNamed, foremost⟩
          refine ⟨offset + 1, by omega, stands, fieldNamed, ?_⟩
          rintro (_ | earlier) other before standsBefore
          · obtain rfl := Option.some.inj standsBefore
            exact named
          · exact foremost earlier other (by omega) standsBefore
        · rintro ⟨offset, rfl, stands, fieldNamed, foremost⟩
          cases offset with
          | zero =>
              obtain rfl := Option.some.inj stands
              exact absurd fieldNamed named
          | succ offset =>
              refine ⟨offset, by omega, stands, fieldNamed, ?_⟩
              intro earlier other before standsBefore
              exact foremost (earlier + 1) other (by omega) standsBefore

theorem find?_eq_some_iff {type : RecordType} {name : String} {slot : Nat}
    {field : Field FieldType} :
    type.find? name = some (slot, field) ↔ type.First name slot field := by
  rw [find?, findFrom_eq_some_iff]
  constructor
  · rintro ⟨offset, slotEq, stands, named, foremost⟩
    obtain rfl : slot = offset := by omega
    exact ⟨stands, named, foremost⟩
  · rintro ⟨stands, named, foremost⟩
    exact ⟨slot, by omega, stands, named, foremost⟩

theorem readable?_eq_some_iff {type : RecordType} {name : String} {slot : Nat}
    {field : Field FieldType} :
    type.readable? name = some (slot, field) ↔
      type.First name slot field ∧ field.readable = true := by
  rw [readable?, Option.filter_eq_some_iff, find?_eq_some_iff]

theorem readable?_eq_none_iff {type : RecordType} {name : String} :
    type.readable? name = none ↔
      ∀ slot field, type.First name slot field → field.readable = false := by
  constructor
  · intro absent slot field first
    apply Bool.eq_false_iff.mpr
    intro readable
    rw [readable?_eq_some_iff.mpr ⟨first, readable⟩] at absent
    cases absent
  · intro closed
    apply Option.eq_none_iff_forall_ne_some.mpr
    rintro ⟨slot, field⟩ found
    obtain ⟨first, readable⟩ := readable?_eq_some_iff.mp found
    rw [closed slot field first] at readable
    cases readable

end RecordType

/-- A step along a path: the record type it is made on, a slot of it and the field there. -/
structure Step where
  type : RecordType
  slot : Nat
  field : Field FieldType

/-- A step for a piece goes to the first field of the piece's name, which is readable. -/
structure Step.Picks (step : Step) (piece : String) : Prop where
  first : step.type.First piece step.slot step.field
  readable : step.field.readable = true

theorem Step.picks_iff {step : Step} {piece : String} :
    step.Picks piece ↔ step.type.readable? piece = some (step.slot, step.field) := by
  rw [RecordType.readable?_eq_some_iff]
  exact ⟨fun picks => ⟨picks.first, picks.readable⟩, fun ⟨first, readable⟩ => ⟨first, readable⟩⟩

/-- Steps for pieces, each into the record type of the next, and the type they lead into. -/
inductive StepsInto (catalog : Catalog) :
    RecordType → List String → List Step → RecordType → Prop where
  | here {type : RecordType} : StepsInto catalog type [] [] type
  | step {step : Step} {inner final : RecordType} {piece : String} {pieces : List String}
      {steps : List Step} (picks : step.Picks piece)
      (enters : step.field.type.record? catalog = some inner)
      (onward : StepsInto catalog inner pieces steps final) :
      StepsInto catalog step.type (piece :: pieces) (step :: steps) final

/-- The leaf that steps lead to: all they tell of the last field and of the records before it. -/
def leafAfter (catalog : Catalog) (path : String) (before : List Step) (last : Step) : Leaf where
  path := path
  owner := last.type.name
  type := last.field.type
  typeName := last.field.type.name catalog
  nullable := last.field.nullable
  nullableParent := before.any (·.field.nullable)
  slots := before.map (·.slot) ++ [last.slot]

/-- What the pieces of a path come to from a record type on. -/
inductive ComesTo (catalog : Catalog) (path : String) (root : RecordType) :
    List String → Except RuleError Leaf → Prop where
  /-- There is a step for every piece. -/
  | leaf {front : List String} {final : String} {before : List Step} {last : Step}
      (steps : StepsInto catalog root front before last.type) (picks : last.Picks final) :
      ComesTo catalog path root (front ++ [final]) (.ok (leafAfter catalog path before last))
  /-- The type has no field of the name, or the first one cannot be read. -/
  | missing {front rest : List String} {piece : String} {before : List Step} {type : RecordType}
      (steps : StepsInto catalog root front before type)
      (missing : ∀ slot field, type.First piece slot field → field.readable = false) :
      ComesTo catalog path root (front ++ piece :: rest)
        (.error (.invalidPath path piece type.name))
  /-- The path goes on behind a field that holds no record. -/
  | closed {front rest : List String} {piece next : String} {before : List Step} {last : Step}
      (steps : StepsInto catalog root front before last.type) (picks : last.Picks piece)
      (closed : last.field.type.record? catalog = none) :
      ComesTo catalog path root (front ++ piece :: next :: rest)
        (.error (.invalidPath path next (last.field.type.name catalog)))

/-! ## Resolving makes the steps -/

/-- The leaf as it is seen from before some steps. -/
def Leaf.behind (steps : List Step) (leaf : Leaf) : Leaf :=
  { leaf with
    nullableParent := steps.any (·.field.nullable) || leaf.nullableParent
    slots := steps.map (·.slot) ++ leaf.slots }

@[simp] theorem Leaf.behind_nil (leaf : Leaf) : leaf.behind [] = leaf := by
  simp [behind]

theorem Leaf.behind_cons (step : Step) (steps : List Step) (leaf : Leaf) :
    leaf.behind (step :: steps) = (leaf.behind steps).behind [step] := by
  simp [behind, Bool.or_assoc]

theorem leafAfter_cons (catalog : Catalog) (path : String) (step : Step) (before : List Step)
    (last : Step) :
    leafAfter catalog path (step :: before) last =
      (leafAfter catalog path before last).behind [step] := by
  simp [leafAfter, Leaf.behind]

namespace Schema

variable {catalog : Catalog} {path : String}

/-- A walk over a step is the walk from where the step leads, seen from before it. -/
theorem walk_step {step : Step} {inner : RecordType} {piece : String}
    (picks : step.Picks piece) (enters : step.field.type.record? catalog = some inner)
    (next : String) (rest : List String) :
    walk catalog path step.type piece (next :: rest) =
      (walk catalog path inner next rest).map (·.behind [step]) := by
  simp only [walk, Step.picks_iff.mp picks, enters]
  cases walk catalog path inner next rest with
  | error error => rfl
  | ok leaf => simp [Except.map, Leaf.behind]

theorem walk_steps {type final : RecordType} {front : List String} {steps : List Step}
    (into : StepsInto catalog type front steps final) {piece first : String}
    {rest others : List String} (whole : front ++ piece :: rest = first :: others) :
    walk catalog path type first others =
      (walk catalog path final piece rest).map (·.behind steps) := by
  induction into generalizing first others with
  | here =>
      obtain ⟨rfl, rfl⟩ := List.cons.inj whole
      cases walk catalog path _ piece rest with
      | error error => rfl
      | ok leaf => simp [Except.map]
  | @step step inner final name names steps picks enters onward ih =>
      rw [List.cons_append] at whole
      obtain ⟨rfl, rfl⟩ := List.cons.inj whole
      obtain ⟨next, later, split⟩ := List.exists_cons_of_ne_nil
        (show names ++ piece :: rest ≠ [] by simp)
      rw [split, walk_step picks enters, ih split]
      cases walk catalog path final piece rest with
      | error error => rfl
      | ok leaf => simp only [Except.map, Leaf.behind_cons step steps]

theorem comesTo_of_step {step : Step} {inner : RecordType} {piece : String}
    {pieces : List String} {outcome : Except RuleError Leaf} (picks : step.Picks piece)
    (enters : step.field.type.record? catalog = some inner)
    (onward : ComesTo catalog path inner pieces outcome) :
    ComesTo catalog path step.type (piece :: pieces) (outcome.map (·.behind [step])) := by
  cases onward with
  | leaf steps last =>
      have whole : ComesTo catalog path step.type _ _ := .leaf (.step picks enters steps) last
      rw [leafAfter_cons] at whole
      exact whole
  | missing steps missing => exact .missing (.step picks enters steps) missing
  | closed steps last closed => exact .closed (.step picks enters steps) last closed

/-- The pieces of a path come to what the walk along them gives. -/
theorem comesTo_walk (type : RecordType) (piece : String) (rest : List String) :
    ComesTo catalog path type (piece :: rest) (walk catalog path type piece rest) := by
  induction rest generalizing type piece with
  | nil =>
      have here : StepsInto catalog type [] [] type := .here
      cases found : type.readable? piece with
      | none =>
          simp only [walk, found]
          exact .missing here (RecordType.readable?_eq_none_iff.mp found)
      | some pair =>
          have picks : (Step.mk type pair.1 pair.2).Picks piece := Step.picks_iff.mpr found
          simp only [walk, found]
          exact .leaf here picks
  | cons next rest ih =>
      have here : StepsInto catalog type [] [] type := .here
      cases found : type.readable? piece with
      | none =>
          simp only [walk, found]
          exact .missing here (RecordType.readable?_eq_none_iff.mp found)
      | some pair =>
          have picks : (Step.mk type pair.1 pair.2).Picks piece := Step.picks_iff.mpr found
          cases enters : pair.2.type.record? catalog with
          | none =>
              simp only [walk, found, enters]
              exact .closed here picks enters
          | some inner =>
              have steps : ComesTo catalog path type (piece :: next :: rest) _ :=
                comesTo_of_step picks enters (ih inner next)
              rwa [← walk_step picks enters] at steps

theorem walk_of_comesTo {type : RecordType} {pieces : List String}
    {outcome : Except RuleError Leaf} (comesTo : ComesTo catalog path type pieces outcome)
    {piece : String} {rest : List String} (split : pieces = piece :: rest) :
    walk catalog path type piece rest = outcome := by
  cases comesTo with
  | @leaf front final before last steps picks =>
      rw [walk_steps steps split]
      simp [walk, Step.picks_iff.mp picks, Except.map, Leaf.behind, leafAfter]
  | @missing front later name before inner steps missing =>
      rw [walk_steps steps split]
      cases later with
      | nil => simp only [walk, RecordType.readable?_eq_none_iff.mpr missing, Except.map]
      | cons next later =>
          simp only [walk, RecordType.readable?_eq_none_iff.mpr missing, Except.map]
  | @closed front later name next before last steps picks closed =>
      rw [walk_steps steps split]
      simp only [walk, Step.picks_iff.mp picks, closed, Except.map]

theorem comesTo_resolve (schema : Schema) (path : String) :
    ComesTo schema.catalog path schema.root (segments path) (schema.resolve path) := by
  obtain ⟨piece, rest, split⟩ := List.exists_cons_of_ne_nil (segments_ne_nil path)
  rw [resolve_of_segments split, split]
  exact comesTo_walk schema.root piece rest

theorem resolve_eq_of_comesTo {schema : Schema} {outcome : Except RuleError Leaf}
    (comesTo : ComesTo schema.catalog path schema.root (segments path) outcome) :
    schema.resolve path = outcome := by
  obtain ⟨piece, rest, split⟩ := List.exists_cons_of_ne_nil (segments_ne_nil path)
  rw [resolve_of_segments split]
  exact walk_of_comesTo comesTo split

theorem exists_segment_of_resolve_eq_error {schema : Schema} {error : RuleError}
    (failed : schema.resolve path = .error error) :
    ∃ segment ∈ segments path, ∃ typeName, error = .invalidPath path segment typeName := by
  have comesTo := schema.comesTo_resolve path
  rw [failed] at comesTo
  generalize segments path = pieces at comesTo
  cases comesTo with
  | missing steps missing => exact ⟨_, by simp, _, rfl⟩
  | closed steps picks closed => exact ⟨_, by simp, _, rfl⟩

/-- A path comes to the leaf at the end of the steps if there is a step for each of its pieces,
otherwise to an error that tells where the first piece without a step stands, and to nothing
else. -/
theorem resolve_eq_iff_comesTo (schema : Schema) (path : String) :
    (∀ pieces, segments path = pieces ↔ PiecesOf path pieces) ∧
    (∃ piece rest, segments path = piece :: rest ∧
      schema.resolve path = walk schema.catalog path schema.root piece rest) ∧
    ∀ outcome, schema.resolve path = outcome ↔
      ComesTo schema.catalog path schema.root (segments path) outcome := by
  obtain ⟨piece, rest, split⟩ := List.exists_cons_of_ne_nil (segments_ne_nil path)
  have walked : schema.resolve path = walk schema.catalog path schema.root piece rest :=
    resolve_of_segments split
  refine ⟨segments_eq_iff path, ⟨piece, rest, split, walked⟩, ?_⟩
  intro outcome
  rw [walked, split]
  constructor
  · rintro rfl
    exact comesTo_walk schema.root piece rest
  · intro comesTo
    exact walk_of_comesTo comesTo rfl

/-- A field that may only be written hides the fields of its name behind it. -/
example :
    let hero : RecordType :=
      ⟨"Hero", [⟨"Name", .scalar .text, false, false⟩, ⟨"Name", .scalar .text, false, true⟩]⟩
    resolve ⟨fun _ => hero, hero⟩ "Name" = .error (.invalidPath "Name" "Name" "Hero") := rfl

end Schema

end RecordRules
