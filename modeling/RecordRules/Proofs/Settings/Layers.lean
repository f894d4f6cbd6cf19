import RecordRules.Proofs.Settings.FlatLines
import RecordRules.Settings.Basic
import Mathlib.Data.List.Nodup

/-!
# Layers of settings

Settings come in three layers: a file of defaults, a file of a name, and the environment.
A field is decided by the topmost layer that sets it.  The layers are laid over each other
before anything is converted, so that only the deciding value has to convert.  A key sets
the field of its name; a key that names a part inside a field makes a list or a table of
the field, which converts to nothing.  All other keys are passed over.
-/

namespace RecordRules

/-- The settings of a source of flat lines, or of one that is not there. -/
inductive Source.Gives : Source → List (String × Setting) → Prop where
  | absent : Gives .absent []
  | flat {text : String} {entries : List (String × Setting)}
      (lines : Toml.FlatLines (withoutByteOrderMark text.toList) entries) :
      Gives (.toml text) entries

namespace Source.Gives

variable {source : Source} {entries : List (String × Setting)}

theorem settings?_eq (gives : source.Gives entries) : source.settings? = some entries := by
  cases gives with
  | absent => rfl
  | flat lines => exact Toml.read?_of_flat lines

theorem isScalar_of_mem (gives : source.Gives entries) {entry : String × Setting}
    (member : entry ∈ entries) : entry.2.isScalar = true := by
  cases gives with
  | absent => cases member
  | flat lines => exact lines.isScalar_of_mem member

end Source.Gives

namespace Settings

/-! ## One layer -/

def fieldNames : List String := ["strict_compile", "validate_on_build", "log_level", "log_format"]

theorem forall_mem_fieldNames {holds : String → Prop} :
    (∀ field ∈ fieldNames, holds field) ↔
      holds "strict_compile" ∧ holds "validate_on_build" ∧ holds "log_level" ∧
        holds "log_format" := by
  simp only [fieldNames, List.forall_mem_cons, List.not_mem_nil, false_implies, forall_const,
    and_true]

/-- Whether an entry sets a field, as a whole or a part inside it. -/
def sets (field : String) (entry : String × Setting) : Bool :=
  (assignment entry.1 entry.2).1 == field

/-- The value that a layer gives a field; a part inside the field makes a composite of it. -/
def given? (layer : List (String × Setting)) (field : String) : Option Setting :=
  (layer.find? (sets field)).map fun entry => (assignment entry.1 entry.2).2

/-- No field is set twice. -/
def SetsOnce (layer : List (String × Setting)) : Prop :=
  ∀ field ∈ fieldNames, layer.countP (sets field) ≤ 1

instance (layer : List (String × Setting)) : Decidable (SetsOnce layer) :=
  inferInstanceAs (Decidable (∀ field ∈ fieldNames, layer.countP (sets field) ≤ 1))

theorem assignment_of_plain {key : String} (plain : (Key.parts key).2 = false)
    (setting : Setting) : assignment key setting = (key, setting) := by
  have parts : Key.parts key = (key, false) := by
    unfold Key.parts at plain ⊢
    simp only at plain ⊢
    split
    · rfl
    · next inside =>
        rw [if_neg inside] at plain
        cases plain
  rw [assignment, parts]

theorem assignment_of_inside {key : String} (inside : (Key.parts key).2 = true)
    (setting : Setting) : assignment key setting = ((Key.parts key).1, .composite) := by
  unfold assignment
  split
  · next field parts => rw [parts]
  · next field parts =>
      rw [parts] at inside
      cases inside

theorem given?_cons (entry : String × Setting) (rest : List (String × Setting)) (field : String) :
    given? (entry :: rest) field =
      if sets field entry then some (assignment entry.1 entry.2).2 else given? rest field := by
  cases assigns : sets field entry <;> simp [given?, assigns]

theorem given?_of_plain {layer : List (String × Setting)}
    (plain : ∀ entry ∈ layer, (Key.parts entry.1).2 = false) (field : String) :
    given? layer field = layer.lookup field := by
  induction layer with
  | nil => rfl
  | cons entry rest ih =>
      obtain ⟨key, setting⟩ := entry
      have assigned := assignment_of_plain (plain (key, setting) List.mem_cons_self) setting
      rw [given?_cons, ih fun other member => plain other (List.mem_cons_of_mem _ member), sets,
        assigned, List.lookup_cons]
      by_cases same : key = field
      · simp [same]
      · have different : (field == key) = false := beq_false_of_ne (Ne.symm same)
        simp only [beq_false_of_ne same, different, Bool.false_eq_true, if_false]

theorem given?_of_mem {layer : List (String × Setting)} {field : String}
    (once : layer.countP (sets field) ≤ 1) {entry : String × Setting} (member : entry ∈ layer)
    (assigns : sets field entry) :
    given? layer field = some (assignment entry.1 entry.2).2 := by
  induction layer with
  | nil => cases member
  | cons first rest ih =>
      rw [given?_cons]
      rcases List.mem_cons.mp member with rfl | member
      · rw [if_pos assigns]
      · have above : 0 < rest.countP (sets field) :=
          List.countP_pos_iff.mpr ⟨entry, member, assigns⟩
        rw [List.countP_cons] at once
        split at once
        · omega
        · next unset =>
            rw [if_neg unset]
            exact ih once member

/-- A key that names a part inside a field gives the field a composite. -/
theorem given?_of_inside {layer : List (String × Setting)} {key : String} {setting : Setting}
    (once : layer.countP (sets (Key.parts key).1) ≤ 1) (member : (key, setting) ∈ layer)
    (inside : (Key.parts key).2 = true) :
    given? layer (Key.parts key).1 = some .composite := by
  have assigned := assignment_of_inside inside setting
  have assigns : sets (Key.parts key).1 (key, setting) = true := by
    rw [sets, assigned]
    exact beq_self_eq_true _
  rw [given?_of_mem once member assigns, assigned]

theorem setsOnce_of_plain {layer : List (String × Setting)}
    (plain : ∀ entry ∈ layer, (Key.parts entry.1).2 = false)
    (distinct : (layer.map (·.1)).Nodup) : SetsOnce layer := by
  intro field _
  have counted : layer.countP (sets field) = (layer.map (·.1)).count field := by
    rw [List.count, List.countP_map]
    apply List.countP_congr
    intro entry member
    simp [sets, assignment_of_plain (plain entry member)]
  rw [counted]
  exact List.nodup_iff_count_le_one.mp distinct field

theorem assignment_replacing {key : String} {setting : Setting}
    (scalar : setting.isScalar = true) (found : Option Setting) :
    (assignment key setting).2.replacing found = (assignment key setting).2 := by
  unfold assignment
  split
  · rfl
  · cases setting <;> first | rfl | cases scalar

def overlay (field : String) (found : Option Setting) (entry : String × Setting) :
    Option Setting :=
  if sets field entry then some ((assignment entry.1 entry.2).2.replacing found) else found

theorem last?_eq_foldl (settings : List (String × Setting)) (field : String) :
    last? settings field = settings.foldl (overlay field) none := rfl

/-- A layer that sets a field at most once decides it if it sets it, and else leaves it. -/
theorem foldl_overlay {layer : List (String × Setting)} {field : String}
    (scalar : ∀ entry ∈ layer, entry.2.isScalar = true)
    (once : layer.countP (sets field) ≤ 1) (found : Option Setting) :
    layer.foldl (overlay field) found = (given? layer field).or found := by
  induction layer generalizing found with
  | nil => rfl
  | cons entry rest ih =>
      have scalarRest : ∀ other ∈ rest, other.2.isScalar = true :=
        fun other member => scalar other (List.mem_cons_of_mem entry member)
      rw [List.foldl_cons]
      cases assigns : sets field entry with
      | false =>
          rw [List.countP_cons_of_neg (by simp [assigns])] at once
          rw [ih scalarRest once]
          simp [overlay, given?, assigns]
      | true =>
          rw [List.countP_cons_of_pos assigns] at once
          have unset : rest.countP (sets field) = 0 := by omega
          have givesNothing : given? rest field = none := by
            rw [given?, Option.map_eq_none_iff, List.find?_eq_none]
            exact List.countP_eq_zero.mp unset
          rw [ih scalarRest (by omega), givesNothing, Option.none_or, overlay, if_pos assigns,
            assignment_replacing (scalar entry List.mem_cons_self)]
          simp [given?, assigns]

theorem isScalar_ofVariable (text : String) : (Setting.ofVariable text).isScalar = true := by
  unfold Setting.ofVariable
  split
  · rfl
  · split
    · rfl
    · split
      · rfl
      · split <;> rfl

theorem isScalar_of_mem_environment {environment : List (String × String)}
    {entry : String × Setting} (member : entry ∈ ofEnvironment environment) :
    entry.2.isScalar = true := by
  obtain ⟨⟨name, value⟩, -, made⟩ := List.mem_filterMap.mp member
  obtain ⟨key, -, rfl⟩ := Option.map_eq_some_iff.mp made
  exact isScalar_ofVariable value

/-! ## Three layers -/

structure Layers where
  defaults : List (String × Setting)
  named : List (String × Setting)
  environment : List (String × Setting)

namespace Layers

/-- The value of a field in the topmost layer that sets it. -/
def deciding? (layers : Layers) (field : String) : Option Setting :=
  (given? layers.environment field).or
    ((given? layers.named field).or (given? layers.defaults field))

/-- The layers that are found in a directory and an environment, each with every field once. -/
structure Found (layers : Layers) (read : String → Option String)
    (environment : List (String × String)) (directory name : String) : Prop where
  defaults_given : (Source.find read (filePaths directory name).1).Gives layers.defaults
  named_given : (Source.find read (filePaths directory name).2).Gives layers.named
  environment_eq : layers.environment = ofEnvironment environment
  defaults_once : SetsOnce layers.defaults
  named_once : SetsOnce layers.named
  environment_once : SetsOnce layers.environment

end Layers

/-- Settings whose fields are the converted deciding values, or defaults where nothing decides. -/
structure Takes (settings : Settings) (deciding? : String → Option Setting) : Prop where
  strictCompile_eq :
    field? Setting.bool? false (deciding? "strict_compile") = some settings.strictCompile
  validateOnBuild_eq :
    field? Setting.bool? false (deciding? "validate_on_build") = some settings.validateOnBuild
  logLevel_eq : field? Setting.text? "info" (deciding? "log_level") = some settings.logLevel
  logFormat_eq : field? Setting.text? "pretty" (deciding? "log_format") = some settings.logFormat

/-- Each deciding value converts to the type of its field. -/
structure Convert (deciding? : String → Option Setting) : Prop where
  truths : ∀ field ∈ ["strict_compile", "validate_on_build"],
    ∀ setting, deciding? field = some setting → setting.bool?.isSome
  texts : ∀ field ∈ ["log_level", "log_format"],
    ∀ setting, deciding? field = some setting → setting.text?.isSome

theorem ofList?_eq_some_iff {list : List (String × Setting)} {settings : Settings} :
    ofList? list = some settings ↔ settings.Takes (last? list) := by
  simp only [ofList?, Option.bind_eq_bind, Option.bind_eq_some_iff, Option.some.injEq]
  constructor
  · rintro ⟨strict, strictTaken, validate, validateTaken, level, levelTaken, format, formatTaken,
      rfl⟩
    exact ⟨strictTaken, validateTaken, levelTaken, formatTaken⟩
  · rintro ⟨strictTaken, validateTaken, levelTaken, formatTaken⟩
    exact ⟨_, strictTaken, _, validateTaken, _, levelTaken, _, formatTaken, rfl⟩

theorem Takes.congr {first second : String → Option Setting}
    (same : ∀ field ∈ fieldNames, first field = second field) {settings : Settings} :
    settings.Takes first ↔ settings.Takes second := by
  obtain ⟨strict, validate, level, format⟩ := forall_mem_fieldNames.mp same
  constructor
  · rintro ⟨strictTaken, validateTaken, levelTaken, formatTaken⟩
    exact ⟨strict ▸ strictTaken, validate ▸ validateTaken, level ▸ levelTaken,
      format ▸ formatTaken⟩
  · rintro ⟨strictTaken, validateTaken, levelTaken, formatTaken⟩
    exact ⟨strict ▸ strictTaken, validate ▸ validateTaken, level ▸ levelTaken,
      format ▸ formatTaken⟩

theorem isSome_field?_iff {α : Type} {convert : Setting → Option α} {default : α}
    {deciding : Option Setting} :
    (field? convert default deciding).isSome ↔
      ∀ setting, deciding = some setting → (convert setting).isSome := by
  cases deciding with
  | none => simp [field?]
  | some setting => simp [field?]

/-- There are settings exactly if the deciding values convert. -/
theorem exists_takes_iff {deciding? : String → Option Setting} :
    (∃ settings : Settings, settings.Takes deciding?) ↔ Convert deciding? := by
  constructor
  · rintro ⟨settings, strict, validate, level, format⟩
    constructor
    · intro field truth
      rcases List.mem_pair.mp truth with rfl | rfl
      · exact isSome_field?_iff.mp (Option.isSome_of_eq_some strict)
      · exact isSome_field?_iff.mp (Option.isSome_of_eq_some validate)
    · intro field text
      rcases List.mem_pair.mp text with rfl | rfl
      · exact isSome_field?_iff.mp (Option.isSome_of_eq_some level)
      · exact isSome_field?_iff.mp (Option.isSome_of_eq_some format)
  · rintro ⟨truths, texts⟩
    obtain ⟨strict, strictTaken⟩ := Option.isSome_iff_exists.mp
      (isSome_field?_iff.mpr (truths _ List.mem_cons_self))
    obtain ⟨validate, validateTaken⟩ := Option.isSome_iff_exists.mp
      (isSome_field?_iff.mpr (truths _ (List.mem_cons_of_mem _ List.mem_cons_self)))
    obtain ⟨level, levelTaken⟩ := Option.isSome_iff_exists.mp
      (isSome_field?_iff.mpr (texts _ List.mem_cons_self))
    obtain ⟨format, formatTaken⟩ := Option.isSome_iff_exists.mp
      (isSome_field?_iff.mpr (texts _ (List.mem_cons_of_mem _ List.mem_cons_self)))
    exact ⟨⟨strict, validate, level, format⟩, strictTaken, validateTaken, levelTaken, formatTaken⟩

namespace Layers

variable {layers : Layers} {read : String → Option String}
  {environment : List (String × String)} {directory name : String}

theorem Found.last?_eq (found : layers.Found read environment directory name) {field : String}
    (isField : field ∈ fieldNames) :
    last? (layers.defaults ++ layers.named ++ layers.environment) field =
      layers.deciding? field := by
  have environment_scalar : ∀ entry ∈ layers.environment, entry.2.isScalar = true := by
    intro entry member
    rw [found.environment_eq] at member
    exact isScalar_of_mem_environment member
  rw [last?_eq_foldl, List.foldl_append, List.foldl_append,
    foldl_overlay environment_scalar (found.environment_once field isField),
    foldl_overlay (fun entry => found.named_given.isScalar_of_mem) (found.named_once field isField),
    foldl_overlay (fun entry => found.defaults_given.isScalar_of_mem)
      (found.defaults_once field isField),
    Option.or_none, deciding?]

theorem Found.loadFrom?_eq_some_iff (found : layers.Found read environment directory name)
    {settings : Settings} :
    loadFrom? read environment directory name = some settings ↔
      settings.Takes layers.deciding? := by
  have sources : loadFrom? read environment directory name =
      ofList? (layers.defaults ++ layers.named ++ layers.environment) := by
    have base := found.defaults_given.settings?_eq
    have special := found.named_given.settings?_eq
    simp only [loadFrom?, ofSources?, base, special, Option.bind_eq_bind, Option.bind_some,
      found.environment_eq]
  rw [sources, ofList?_eq_some_iff]
  exact Takes.congr fun field isField => found.last?_eq isField

/-- Layers that give each field the same where it is decided, whatever else they hold. -/
def AgreeWhereDeciding (first second : Layers) : Prop :=
  ∀ field ∈ fieldNames,
    given? first.environment field = given? second.environment field ∧
      (given? first.environment field = none →
        given? first.named field = given? second.named field ∧
          (given? first.named field = none →
            given? first.defaults field = given? second.defaults field))

theorem AgreeWhereDeciding.deciding?_eq {first second : Layers}
    (agree : first.AgreeWhereDeciding second) {field : String} (isField : field ∈ fieldNames) :
    first.deciding? field = second.deciding? field := by
  obtain ⟨sameEnvironment, below⟩ := agree field isField
  rw [deciding?, deciding?, ← sameEnvironment]
  cases inEnvironment : given? first.environment field with
  | some setting => rfl
  | none =>
      obtain ⟨sameNamed, below⟩ := below inEnvironment
      rw [← sameNamed]
      cases inNamed : given? first.named field with
      | some setting => rfl
      | none => rw [below inNamed]

end Layers

/-- Settings are loaded exactly if the deciding value of each field converts, and are then the
converted values, with defaults for the fields that no layer sets. -/
theorem loadFrom?_by_deciding_values {layers : Layers} {read : String → Option String}
    {environment : List (String × String)} {directory name : String}
    (found : layers.Found read environment directory name) :
    ((loadFrom? read environment directory name).isSome ↔ Convert layers.deciding?) ∧
    (∀ settings : Settings,
      loadFrom? read environment directory name = some settings ↔
        settings.Takes layers.deciding?) ∧
    (∀ (others : Layers) (otherRead : String → Option String)
        (otherEnvironment : List (String × String)) (otherDirectory otherName : String),
      others.Found otherRead otherEnvironment otherDirectory otherName →
      layers.AgreeWhereDeciding others →
        loadFrom? otherRead otherEnvironment otherDirectory otherName =
          loadFrom? read environment directory name) ∧
    (∀ layer : List (String × Setting),
      (∀ entry ∈ layer, (Key.parts entry.1).2 = false) → (layer.map (·.1)).Nodup →
        SetsOnce layer ∧ ∀ field, given? layer field = layer.lookup field) ∧
    (∀ (layer : List (String × Setting)) (key : String) (setting : Setting),
      SetsOnce layer → (key, setting) ∈ layer →
      (Key.parts key).2 = true → (Key.parts key).1 ∈ fieldNames →
        given? layer (Key.parts key).1 = some .composite) := by
  refine ⟨?_, fun settings => found.loadFrom?_eq_some_iff, ?_, ?_, ?_⟩
  · rw [Option.isSome_iff_exists, ← exists_takes_iff]
    exact exists_congr fun settings => found.loadFrom?_eq_some_iff
  · intro others otherRead otherEnvironment otherDirectory otherName otherFound agree
    apply Option.ext
    intro settings
    rw [otherFound.loadFrom?_eq_some_iff, found.loadFrom?_eq_some_iff]
    exact Takes.congr fun field isField => (agree.deciding?_eq isField).symm
  · intro layer plain distinct
    exact ⟨setsOnce_of_plain plain distinct, given?_of_plain plain⟩
  · intro layer key setting once member inside isField
    exact given?_of_inside (once _ isField) member inside

/-- Overridden words and keys of no field are passed over, as if there were no defaults. -/
theorem loadFrom?_by_deciding_values_over_bad_defaults :
    let defaultsText := "strict_compile = \"maybe\"\ncolour = \"red\"\n"
    let namedText := "strict_compile = 1\n"
    let bare : String → Option String :=
      fun path => if path = "conf/svc.toml" then some namedText else none
    let full : String → Option String :=
      fun path => if path = "conf/default.toml" then some defaultsText else bare path
    let environment := [("Rule_Engine_LOG_FORMAT", "JSON")]
    let defaults : List (String × Setting) :=
      [("strict_compile", .text "maybe"), ("colour", .text "red")]
    let layers : Layers :=
      ⟨defaults, [("strict_compile", .whole 1)], [("log_format", .text "JSON")]⟩
    let lower : Layers := ⟨[], layers.named, layers.environment⟩
    layers.Found full environment "conf" "svc" ∧
      lower.Found bare environment "conf" "svc" ∧ layers.AgreeWhereDeciding lower ∧
      SetsOnce defaults ∧ (∀ field, given? defaults field = defaults.lookup field) ∧
      loadFrom? full environment "conf" "svc" = some ⟨true, false, "info", "JSON"⟩ ∧
      loadFrom? bare environment "conf" "svc" = loadFrom? full environment "conf" "svc" := by
  intro defaultsText namedText bare full environment defaults layers lower
  have defaultsLines :
      Toml.FlatLines (Source.withoutByteOrderMark defaultsText.toList) defaults := by
    have unmarked : Source.withoutByteOrderMark defaultsText.toList = defaultsText.toList := by
      decide
    have first : Toml.keyLine (Toml.skipLineBlanks defaultsText.toList) =
        some ((["strict_compile"], .text "maybe"), "colour = \"red\"\n".toList) := by
      decide +kernel
    have second : Toml.keyLine (Toml.skipLineBlanks "colour = \"red\"\n".toList) =
        some ((["colour"], .text "red"), []) := by
      decide +kernel
    rw [unmarked]
    exact .entry (by decide) first rfl (by decide)
      (.entry (by decide) second rfl (by decide) (.done rfl))
  have namedLines :
      Toml.FlatLines (Source.withoutByteOrderMark namedText.toList) layers.named := by
    have unmarked : Source.withoutByteOrderMark namedText.toList = namedText.toList := by
      decide
    have line : Toml.keyLine (Toml.skipLineBlanks namedText.toList) =
        some ((["strict_compile"], .whole 1), []) := by
      decide +kernel
    rw [unmarked]
    exact .entry (by decide) line rfl (by decide) (.done rfl)
  have environment_eq : layers.environment = ofEnvironment environment := by decide +kernel
  have found : layers.Found full environment "conf" "svc" :=
    ⟨.flat defaultsLines, .flat namedLines, environment_eq, by decide, by decide, by decide⟩
  have foundLower : lower.Found bare environment "conf" "svc" :=
    ⟨.absent, .flat namedLines, environment_eq, by decide, by decide, by decide⟩
  have agree : layers.AgreeWhereDeciding lower := by
    unfold Layers.AgreeWhereDeciding
    decide
  obtain ⟨-, taken, same, plain, -⟩ := loadFrom?_by_deciding_values found
  obtain ⟨once, looked⟩ := plain defaults (by decide) (by decide)
  refine ⟨found, foundLower, agree, once, looked, ?_, same _ _ _ _ _ foundLower agree⟩
  rw [taken]
  constructor <;> decide

/-- A key that is no field's name, but names a part inside a field, spoils the settings. -/
theorem settings_spoiled_by_part_of_field :
    let text := "\"log_level[0]\" = \"x\"\n"
    let read : String → Option String :=
      fun path => if path = "conf/default.toml" then some text else none
    let environment := [("RULE_ENGINE_LOG_LEVEL[0]", "x")]
    (Source.find read "conf/default.toml").Gives [("log_level[0]", .text "x")] ∧
      ofEnvironment environment = [("log_level[0]", .text "x")] ∧
      "log_level[0]" ∉ fieldNames ∧
      loadFrom? (fun _ => none) [] "conf" "svc" = some {} ∧
      loadFrom? read [] "conf" "svc" = none ∧
      loadFrom? (fun _ => none) environment "conf" "svc" = none := by
  intro text read environment
  have unmarked : Source.withoutByteOrderMark text.toList = text.toList := by decide
  have line : Toml.keyLine (Toml.skipLineBlanks text.toList) =
      some ((["log_level[0]"], .text "x"), []) := by
    decide +kernel
  have gives : (Source.find read "conf/default.toml").Gives [("log_level[0]", .text "x")] := by
    apply Source.Gives.flat
    rw [unmarked]
    exact .entry (by decide) line rfl (by decide) (.done rfl)
  refine ⟨gives, ?_, ?_, ?_, ?_, ?_⟩ <;> decide +kernel

end Settings

end RecordRules
