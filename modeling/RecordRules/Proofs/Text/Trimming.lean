import Mathlib.Data.List.Basic
import RecordRules.Text.Blank
import RecordRules.Text.Digits

/-!
# Texts between blanks

Trimming a text gives the one core that the text has between blanks: a part without blanks
at its ends, with nothing but blanks before it and behind it.
-/

namespace RecordRules.Text

theorem isDigit_iff {c : Char} : isDigit c = true ↔ 48 ≤ c.toNat ∧ c.toNat ≤ 57 := by
  simp [isDigit, Char.le_def, UInt32.le_iff_toNat_le]

theorem isBlank_of_isDigit {c : Char} (digit : isDigit c = true) : isBlank c = false := by
  obtain ⟨low, high⟩ := isDigit_iff.mp digit
  simp only [isBlank, Bool.or_eq_false_iff, Bool.and_eq_false_iff, decide_eq_false_iff_not,
    beq_eq_false_iff_ne]
  omega

theorem isBlank_of_mem_of_all {text : List Char} (visible : text.all (!isBlank ·) = true)
    {c : Char} (member : c ∈ text) : isBlank c = false := by
  simpa using List.all_eq_true.mp visible c member

/-- Neither the first character of a text nor its last is blank; the empty text is solid. -/
structure Solid (core : List Char) : Prop where
  front : ∀ c rest, core = c :: rest → isBlank c = false
  back : ∀ c rest, core = rest ++ [c] → isBlank c = false

theorem Solid.of_forall_mem {core : List Char} (visible : ∀ c ∈ core, isBlank c = false) :
    Solid core := by
  constructor
  · rintro c rest rfl
    exact visible c List.mem_cons_self
  · rintro c rest rfl
    exact visible c List.mem_concat_self

/-- A text is a core between blanks. -/
structure Pads (before core after text : List Char) : Prop where
  whole : text = before ++ (core ++ after)
  blankBefore : ∀ c ∈ before, isBlank c = true
  blankAfter : ∀ c ∈ after, isBlank c = true

theorem trimStart_append_of_blank {before : List Char} (blank : ∀ c ∈ before, isBlank c = true)
    (rest : List Char) : trimStart (before ++ rest) = trimStart rest :=
  List.dropWhile_append_of_pos blank

theorem trimStart_of_blank {text : List Char} (blank : ∀ c ∈ text, isBlank c = true) :
    trimStart text = [] := by
  simpa using trimStart_append_of_blank blank []

theorem isBlank_of_trimStart_eq {text rest : List Char} {c : Char}
    (left : trimStart text = c :: rest) : isBlank c = false := by
  induction text with
  | nil => cases left
  | cons first others ih =>
      cases blank : isBlank first with
      | true => exact ih (by rwa [trimStart_cons_of_blank blank] at left)
      | false =>
          rw [trimStart_cons_of_not_blank blank] at left
          obtain ⟨rfl, -⟩ := List.cons.inj left
          exact blank

theorem exists_blank_append_trimStart (text : List Char) :
    ∃ before, text = before ++ trimStart text ∧ ∀ c ∈ before, isBlank c = true :=
  ⟨text.takeWhile isBlank, List.takeWhile_append_dropWhile.symm,
    List.all_eq_true.mp List.all_takeWhile⟩

theorem trim_of_pads {before core after text : List Char} (pads : Pads before core after text)
    (solid : Solid core) : trim text = core := by
  obtain ⟨rfl, blankBefore, blankAfter⟩ := pads
  rw [trim, trimStart_append_of_blank blankBefore]
  cases core with
  | nil =>
      rw [List.nil_append, trimStart_of_blank blankAfter]
      rfl
  | cons first rest =>
      rw [List.cons_append, trimStart_cons_of_not_blank (solid.front first rest rfl),
        ← List.cons_append, List.reverse_append,
        trimStart_append_of_blank (by simpa using blankAfter)]
      -- Seen from its end the core begins with a character that is not blank.
      obtain ⟨front, last, whole⟩ : ∃ front last, first :: rest = front ++ [last] :=
        ⟨_, _, (List.dropLast_append_getLast (List.cons_ne_nil first rest)).symm⟩
      rw [whole, List.reverse_append, List.reverse_singleton, List.singleton_append,
        trimStart_cons_of_not_blank (solid.back last front whole), List.reverse_cons,
        List.reverse_reverse]

theorem exists_pads_trim (text : List Char) :
    ∃ before after, Pads before (trim text) after text := by
  obtain ⟨before, split, blankBefore⟩ := exists_blank_append_trimStart text
  obtain ⟨after, later, blankAfter⟩ := exists_blank_append_trimStart (trimStart text).reverse
  refine ⟨before, after.reverse, ?_, blankBefore, by simpa using blankAfter⟩
  have middle := congrArg List.reverse later
  rw [List.reverse_reverse, List.reverse_append] at middle
  rw [trim, ← middle]
  exact split

theorem solid_trim (text : List Char) : Solid (trim text) := by
  have back : ∀ c rest, trim text = rest ++ [c] → isBlank c = false := by
    intro c rest whole
    have reversed := congrArg List.reverse whole
    rw [trim, List.reverse_reverse, List.reverse_append] at reversed
    exact isBlank_of_trimStart_eq reversed
  refine ⟨?_, back⟩
  intro c rest whole
  -- The core begins as what is left behind the leading blanks does.
  obtain ⟨after, later, -⟩ := exists_blank_append_trimStart (trimStart text).reverse
  have middle := congrArg List.reverse later
  rw [List.reverse_reverse, List.reverse_append] at middle
  apply isBlank_of_trimStart_eq (middle.trans _)
  · exact rest ++ after.reverse
  · rw [← List.cons_append, ← whole, trim]

/-- Trimming gives the core of a text, and a text has only one. -/
theorem trim_eq_iff {text core : List Char} :
    trim text = core ↔ Solid core ∧ ∃ before after, Pads before core after text := by
  constructor
  · rintro rfl
    exact ⟨solid_trim text, exists_pads_trim text⟩
  · rintro ⟨solid, before, after, pads⟩
    exact trim_of_pads pads solid

theorem Solid.trim_eq {text : List Char} (solid : Solid text) : trim text = text :=
  trim_eq_iff.mpr ⟨solid, [], [], by simp, nofun, nofun⟩

theorem Pads.widen {before core after text : List Char} (pads : Pads before core after text)
    {front back : List Char} (blankFront : ∀ c ∈ front, isBlank c = true)
    (blankBack : ∀ c ∈ back, isBlank c = true) :
    Pads (front ++ before) core (after ++ back) (front ++ (text ++ back)) where
  whole := by simp [pads.whole]
  blankBefore := by
    intro c member
    exact (List.mem_append.mp member).elim (blankFront c) (pads.blankBefore c)
  blankAfter := by
    intro c member
    exact (List.mem_append.mp member).elim (pads.blankAfter c) (blankBack c)

theorem trim_between_blanks {front back : List Char} (blankFront : ∀ c ∈ front, isBlank c = true)
    (blankBack : ∀ c ∈ back, isBlank c = true) (text : List Char) :
    trim (front ++ (text ++ back)) = trim text := by
  obtain ⟨before, after, pads⟩ := exists_pads_trim text
  exact trim_of_pads (pads.widen blankFront blankBack) (solid_trim text)

theorem Solid.between {front middle back : List Char}
    (visibleFront : ∀ c ∈ front, isBlank c = false)
    (visibleBack : ∀ c ∈ back, isBlank c = false) (first : front ≠ []) (last : back ≠ []) :
    Solid (front ++ middle ++ back) := by
  constructor
  · intro c rest shape
    obtain ⟨d, others, rfl⟩ := List.exists_cons_of_ne_nil first
    obtain ⟨rfl, -⟩ := List.cons.inj shape
    exact visibleFront d List.mem_cons_self
  · intro c rest shape
    obtain ⟨others, d, rfl⟩ := (List.eq_nil_or_concat' back).resolve_left last
    rw [← List.append_assoc] at shape
    obtain ⟨-, same⟩ := List.append_inj' shape rfl
    obtain rfl := List.singleton_inj.mp same
    exact visibleBack d List.mem_concat_self

end RecordRules.Text
