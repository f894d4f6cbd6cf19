import Mathlib.Data.List.DropRight
import RecordRules.Literal
import RecordRules.Proofs.Calendar.Days
import RecordRules.Proofs.Text.Trimming

/-!
# The forms of dates and times

Every form of a point in time begins with the fields of a date, and what is left behind
them tells the forms apart: nothing behind a date alone, `T` and the fields of a time, those
fields alone, or those fields with an offset.  So at most one form fits a text, and neither
points in time nor dates depend on the order in which the forms are tried.  A date is then
the day of the point in time that its text stands for.
-/

namespace RecordRules.Calendar

open Text

/-! ## Fields in front of a text -/

theorem exists_digits_of_exactDigits {count value : Nat} {text rest : List Char}
    (read : exactDigits count text = some (value, rest)) :
    ∃ digits, text = digits ++ rest ∧ digits.length = count ∧
      (∀ c ∈ digits, isDigit c = true) ∧ value = natValue digits := by
  obtain ⟨shape, same⟩ := Option.ite_none_right_eq_some.mp read
  simp only [Bool.and_eq_true, decide_eq_true_eq, List.all_eq_true] at shape
  cases same
  exact ⟨text.take count, (List.take_append_drop count text).symm, shape.1, shape.2, rfl⟩

theorem someDigits_append {digits : List Char} (digit : ∀ c ∈ digits, isDigit c = true)
    (nonempty : digits ≠ []) (rest : List Char) :
    someDigits digits.length (digits ++ rest) = some (natValue digits, rest) := by
  have taken : digits.takeWhile isDigit = digits := List.takeWhile_eq_self_iff.mpr digit
  simp [someDigits, taken, nonempty]

/-- A field of exactly as many digits as it may have is a field behind blanks. -/
theorem someDigits_of_exactDigits {count value : Nat} {text rest : List Char}
    (positive : 0 < count) (read : exactDigits count text = some (value, rest)) :
    ∃ first others, text = first :: others ∧ isDigit first = true ∧
      someDigits count text = some (value, rest) := by
  obtain ⟨digits, rfl, rfl, digit, rfl⟩ := exists_digits_of_exactDigits read
  cases digits with
  | nil => cases positive
  | cons first others =>
      exact ⟨first, others ++ rest, rfl, digit first List.mem_cons_self,
        someDigits_append digit (List.cons_ne_nil first others) rest⟩

theorem field_of_exactDigits {value : Nat} {text rest : List Char}
    (read : exactDigits 2 text = some (value, rest)) : field text = some (value, rest) := by
  obtain ⟨first, others, rfl, digit, found⟩ := someDigits_of_exactDigits (by decide) read
  rw [field, trimStart_cons_of_not_blank (isBlank_of_isDigit digit), found]

theorem year_of_exactDigits {value : Nat} {text rest : List Char}
    (read : exactDigits 4 text = some (value, rest)) :
    year text = some ((value : Int), rest) := by
  obtain ⟨first, others, rfl, digit, found⟩ := someDigits_of_exactDigits (by decide) read
  rw [year, trimStart_cons_of_not_blank (isBlank_of_isDigit digit)]
  -- A digit is neither of the signs that a year may have.
  split
  · next same =>
      obtain ⟨rfl, -⟩ := List.cons.inj same
      cases digit
  · next same =>
      obtain ⟨rfl, -⟩ := List.cons.inj same
      cases digit
  · rw [found]
    rfl

theorem mark_eq_some_iff {c : Char} {text rest : List Char} :
    mark c text = some rest ↔ text = c :: rest := by
  cases text with
  | nil => simp [mark]
  | cons first others => simp [mark]

theorem eq_nil_and_eq_of_ended {α : Type} {rest : List Char} {found given : α}
    (ended : (if rest.isEmpty then some found else none) = some given) :
    rest = [] ∧ found = given := by
  obtain ⟨empty, same⟩ := Option.ite_none_right_eq_some.mp ended
  exact ⟨List.isEmpty_iff.mp empty, Option.some.inj same⟩

@[simp] theorem trimStart_trimStart (text : List Char) :
    trimStart (trimStart text) = trimStart text :=
  List.dropWhile_idempotent ..

theorem timeFields_trimStart (date : Date) (text : List Char) :
    timeFields date (trimStart text) = timeFields date text := by
  simp only [timeFields, field, trimStart_trimStart]

theorem timeFields_cons_of_not_digit {c : Char} (visible : isBlank c = false)
    (other : isDigit c = false) (date : Date) (rest : List Char) :
    timeFields date (c :: rest) = none := by
  have nothing : field (c :: rest) = none := by
    rw [field, trimStart_cons_of_not_blank visible]
    simp [someDigits, other]
  simp [timeFields, nothing]

theorem inCalendar_of_dateFields {text rest : List Char} {date : Date}
    (read : dateFields text = some (date, rest)) : date.InCalendar := by
  simp only [dateFields, Option.bind_eq_bind, Option.bind_eq_some_iff] at read
  obtain ⟨_, -, _, -, _, -, _, -, _, -, made, valid, same⟩ := read
  cases same
  exact Date.inCalendar_of_ofParts? valid

theorem dateFields_of_plainDate? {text : List Char} {date : Date}
    (read : plainDate? text = some date) : dateFields text = some (date, []) := by
  simp only [plainDate?, Option.bind_eq_bind, Option.bind_eq_some_iff] at read
  obtain ⟨⟨found, rest⟩, dated, ended⟩ := read
  obtain ⟨rfl, rfl⟩ := eq_nil_and_eq_of_ended ended
  exact dated

/-! ## Forms -/

/-- The forms of a point in time. -/
inductive Form where
  | strict
  | joined
  | spaced
  | dateOnly
deriving DecidableEq, Repr

namespace Form

def read? : Form → List Char → Option DateTime
  | .strict, text => strict? text
  | .joined, text => joined? text
  | .spaced, text => spaced? text
  | .dateOnly, text => (plainDate? text).map .ofDate

def readDate? : Form → List Char → Option Date
  | .dateOnly, text => plainDate? text
  | form, text => (form.read? text).map DateTime.date

/-- The forms in the order in which they are tried. -/
def inOrder : List Form :=
  [.strict, .joined, .spaced, .dateOnly]

theorem mem_inOrder (form : Form) : form ∈ inOrder := by
  cases form <;> decide

/-- What stands behind the fields of a date, form by form. -/
inductive Completes (date : Date) : Form → List Char → DateTime → Prop where
  | strict {separator : Char} {clock tail : List Char} {time : DateTime} {ahead : Int}
      (known : separator = 'T' ∨ separator = 't' ∨ separator = ' ')
      (timed : timeFields date clock = some (time, tail))
      (shifted : offset tail = some (ahead, [])) :
      Completes date .strict (separator :: clock) (time.behind ahead)
  | joined {clock : List Char} {time : DateTime}
      (timed : timeFields date clock = some (time, [])) :
      Completes date .joined ('T' :: clock) time
  | spaced {clock : List Char} {time : DateTime}
      (timed : timeFields date clock = some (time, [])) : Completes date .spaced clock time
  | dateOnly : Completes date .dateOnly [] (.ofDate date)

theorem strictSeparator_eq_some_iff {text rest : List Char} :
    strictSeparator text = some rest ↔
      ∃ separator, (separator = 'T' ∨ separator = 't' ∨ separator = ' ') ∧
        text = separator :: rest := by
  cases text with
  | nil => simp [strictSeparator]
  | cons first others =>
      simp only [strictSeparator, Option.ite_none_right_eq_some, Bool.or_eq_true,
        decide_eq_true_eq, Option.some.injEq, or_assoc, List.cons.injEq]
      constructor
      · rintro ⟨known, rfl⟩
        exact ⟨first, known, rfl, rfl⟩
      · rintro ⟨separator, known, rfl, rfl⟩
        exact ⟨known, rfl⟩

/-- The fields of the strict form are fields of the lenient forms. -/
theorem exists_completes_of_strict? {text : List Char} {time : DateTime}
    (fits : strict? text = some time) :
    ∃ date rest, dateFields text = some (date, rest) ∧ Completes date .strict rest time := by
  obtain ⟨⟨yearValue, _⟩, years, fits⟩ := Option.bind_eq_some_iff.mp fits
  obtain ⟨_, yearMark, fits⟩ := Option.bind_eq_some_iff.mp fits
  obtain ⟨⟨month, _⟩, months, fits⟩ := Option.bind_eq_some_iff.mp fits
  obtain ⟨_, monthMark, fits⟩ := Option.bind_eq_some_iff.mp fits
  obtain ⟨⟨day, _⟩, days, fits⟩ := Option.bind_eq_some_iff.mp fits
  obtain ⟨clock, separated, fits⟩ := Option.bind_eq_some_iff.mp fits
  obtain ⟨⟨hour, _⟩, hours, fits⟩ := Option.bind_eq_some_iff.mp fits
  obtain ⟨_, hourMark, fits⟩ := Option.bind_eq_some_iff.mp fits
  obtain ⟨⟨minute, _⟩, minutes, fits⟩ := Option.bind_eq_some_iff.mp fits
  obtain ⟨_, minuteMark, fits⟩ := Option.bind_eq_some_iff.mp fits
  obtain ⟨⟨second, _⟩, seconds, fits⟩ := Option.bind_eq_some_iff.mp fits
  obtain ⟨⟨nanos, tail⟩, nanosRead, fits⟩ := Option.bind_eq_some_iff.mp fits
  obtain ⟨⟨ahead, _⟩, shifted, fits⟩ := Option.bind_eq_some_iff.mp fits
  obtain ⟨ended, fits⟩ := Option.ite_none_right_eq_some.mp fits
  obtain rfl := List.isEmpty_iff.mp ended
  obtain ⟨date, valid, fits⟩ := Option.bind_eq_some_iff.mp fits
  obtain ⟨found, inDay, fits⟩ := Option.bind_eq_some_iff.mp fits
  obtain rfl := Option.some.inj fits
  obtain ⟨separator, known, rfl⟩ := strictSeparator_eq_some_iff.mp separated
  have dated : dateFields text = some (date, separator :: clock) := by
    simp only [dateFields, Option.bind_eq_bind, year_of_exactDigits years, yearMark,
      field_of_exactDigits months, monthMark, field_of_exactDigits days, valid, Option.bind_some]
  have timed : timeFields date clock = some (found, tail) := by
    simp only [timeFields, Option.bind_eq_bind, field_of_exactDigits hours, hourMark,
      field_of_exactDigits minutes, minuteMark, field_of_exactDigits seconds, nanosRead, inDay,
      Option.bind_some]
  exact ⟨date, separator :: clock, dated, .strict known timed shifted⟩

/-- A form that fits a text completes the fields of a date in front of it. -/
theorem exists_completes {form : Form} {text : List Char} {time : DateTime}
    (fits : form.read? text = some time) :
    ∃ date rest, dateFields text = some (date, rest) ∧ Completes date form rest time := by
  cases form with
  | strict => exact exists_completes_of_strict? fits
  | joined =>
      simp only [read?, joined?, Option.bind_eq_bind, Option.bind_eq_some_iff] at fits
      obtain ⟨⟨date, rest⟩, dated, clock, marked, ⟨found, tail⟩, timed, ended⟩ := fits
      obtain ⟨rfl, rfl⟩ := eq_nil_and_eq_of_ended ended
      obtain rfl := mark_eq_some_iff.mp marked
      exact ⟨date, _, dated, .joined timed⟩
  | spaced =>
      simp only [read?, spaced?, Option.bind_eq_bind, Option.bind_eq_some_iff] at fits
      obtain ⟨⟨date, rest⟩, dated, ⟨found, tail⟩, timed, ended⟩ := fits
      obtain ⟨rfl, rfl⟩ := eq_nil_and_eq_of_ended ended
      rw [timeFields_trimStart] at timed
      exact ⟨date, rest, dated, .spaced timed⟩
  | dateOnly =>
      obtain ⟨date, read, rfl⟩ := Option.map_eq_some_iff.mp fits
      exact ⟨date, [], dateFields_of_plainDate? read, .dateOnly⟩

theorem offset_ne_of_ended {date : Date} {clock tail : List Char} {time found : DateTime}
    {ahead : Int} (ended : timeFields date clock = some (time, []))
    (timed : timeFields date clock = some (found, tail)) :
    offset tail ≠ some (ahead, []) := by
  intro shifted
  rw [ended] at timed
  cases timed
  cases shifted

/-- Fields of a time do not begin with the `T` that a form may have before them. -/
theorem not_timeFields_cons {separator : Char} (letter : separator = 'T' ∨ separator = 't')
    {date : Date} {clock tail : List Char} {time : DateTime} :
    timeFields date (separator :: clock) ≠ some (time, tail) := by
  intro timed
  have nothing : timeFields date (separator :: clock) = none := by
    rcases letter with rfl | rfl
    · exact timeFields_cons_of_not_digit rfl rfl date clock
    · exact timeFields_cons_of_not_digit rfl rfl date clock
  rw [nothing] at timed
  cases timed

theorem Completes.not_spaced_of_strict {date : Date} {rest : List Char}
    {time strictTime : DateTime} (strict : Completes date .strict rest strictTime) :
    ¬ Completes date .spaced rest time := by
  intro spaced
  obtain ⟨known, timed, shifted⟩ := strict
  cases spaced with
  | spaced ended =>
      rcases known with rfl | rfl | rfl
      · exact not_timeFields_cons (.inl rfl) ended
      · exact not_timeFields_cons (.inr rfl) ended
      · -- The blank before the time is passed over, so both forms read the same time.
        rw [← timeFields_trimStart, trimStart_cons_of_blank rfl, timeFields_trimStart] at ended
        exact offset_ne_of_ended ended timed shifted

/-- What stands behind a date completes it in one form only. -/
theorem Completes.form_eq {date : Date} {form other : Form} {rest : List Char}
    {time otherTime : DateTime} (left : Completes date form rest time)
    (right : Completes date other rest otherTime) : form = other := by
  cases left with
  | strict known timed shifted =>
      cases right with
      | strict => rfl
      | joined ended => exact absurd shifted (offset_ne_of_ended ended timed)
      | spaced ended =>
          exact absurd (.spaced ended) (not_spaced_of_strict (.strict known timed shifted))
  | joined ended =>
      cases right with
      | strict known timed shifted => exact absurd shifted (offset_ne_of_ended ended timed)
      | joined => rfl
      | spaced alone => exact absurd alone (not_timeFields_cons (.inl rfl))
  | spaced ended =>
      cases right with
      | strict known timed shifted =>
          exact absurd (.spaced ended) (not_spaced_of_strict (.strict known timed shifted))
      | joined => exact absurd ended (not_timeFields_cons (.inl rfl))
      | spaced => rfl
      | dateOnly => cases ended
  | dateOnly =>
      cases right with
      | spaced ended => cases ended
      | dateOnly => rfl

theorem eq_of_read? {form other : Form} {text : List Char} {time otherTime : DateTime}
    (fits : form.read? text = some time) (fitsToo : other.read? text = some otherTime) :
    form = other := by
  obtain ⟨date, rest, dated, completes⟩ := exists_completes fits
  obtain ⟨_, _, datedToo, completesToo⟩ := exists_completes fitsToo
  rw [dated] at datedToo
  cases datedToo
  exact completes.form_eq completesToo

end Form

/-! ## Trying the forms -/

/-- Readers of which at most one fits give the same in whichever order they are tried. -/
theorem findSome?_eq_some_iff_of_single {α β : Type} {read? : α → Option β}
    (single : ∀ a b x y, read? a = some x → read? b = some y → a = b)
    {readers : List α} (every : ∀ a, a ∈ readers) {x : β} :
    readers.findSome? read? = some x ↔ ∃ a, read? a = some x := by
  constructor
  · intro found
    obtain ⟨a, -, fits⟩ := List.exists_of_findSome?_eq_some found
    exact ⟨a, fits⟩
  · rintro ⟨a, fits⟩
    cases found : readers.findSome? read? with
    | none =>
        rw [List.findSome?_eq_none_iff.mp found a (every a)] at fits
        cases fits
    | some y =>
        obtain ⟨b, -, fitsToo⟩ := List.exists_of_findSome?_eq_some found
        obtain rfl := single a b x y fits fitsToo
        rw [← fits, fitsToo]

theorem readDateTime?_eq_findSome? (text : List Char) :
    readDateTime? text = Form.inOrder.findSome? (·.read? text) := by
  simp only [readDateTime?, Form.inOrder, List.findSome?_cons, List.findSome?_nil, Form.read?]
  cases strict? text <;> cases joined? text <;> cases spaced? text <;>
    cases plainDate? text <;> rfl

theorem readDateTime?_eq_some_iff {text : List Char} {time : DateTime} :
    readDateTime? text = some time ↔ ∃ form : Form, form.read? text = some time := by
  rw [readDateTime?_eq_findSome?]
  apply findSome?_eq_some_iff_of_single
  · intro form other time otherTime
    exact Form.eq_of_read?
  · exact Form.mem_inOrder

theorem findSome?_read? {forms : List Form} (every : ∀ form, form ∈ forms) (text : List Char) :
    forms.findSome? (·.read? text) = readDateTime? text := by
  apply Option.ext
  intro time
  rw [readDateTime?_eq_some_iff]
  apply findSome?_eq_some_iff_of_single
  · intro form other time otherTime
    exact Form.eq_of_read?
  · exact every

theorem date_ofDate {date : Date} (known : date.InCalendar) :
    (DateTime.ofDate date).date = date := by
  have number : date.dayNumber * DateTime.daySeconds / DateTime.daySeconds = date.dayNumber :=
    Int.mul_ediv_cancel date.dayNumber (by decide)
  exact Date.ofDayNumber_eq_iff.mpr ⟨known, number.symm⟩

theorem date_ofDate_of_plainDate? {text : List Char} {date : Date}
    (read : plainDate? text = some date) : (DateTime.ofDate date).date = date :=
  date_ofDate (inCalendar_of_dateFields (dateFields_of_plainDate? read))

theorem Form.readDate?_eq_map (form : Form) (text : List Char) :
    form.readDate? text = (form.read? text).map DateTime.date := by
  cases form with
  | dateOnly =>
      simp only [readDate?, read?]
      cases read : plainDate? text with
      | none => rfl
      | some date =>
          rw [Option.map_some, Option.map_some, date_ofDate_of_plainDate? read]
  | strict => rfl
  | joined => rfl
  | spaced => rfl

theorem readDate?_eq_map (text : List Char) :
    readDate? text = (readDateTime? text).map DateTime.date := by
  unfold readDate?
  split
  · next date read =>
      have fits : Form.dateOnly.read? text = some (.ofDate date) := by
        rw [Form.read?, read, Option.map_some]
      rw [readDateTime?_eq_some_iff.mpr ⟨.dateOnly, fits⟩, Option.map_some,
        date_ofDate_of_plainDate? read]
  · rfl

theorem findSome?_readDate? {forms : List Form} (every : ∀ form, form ∈ forms)
    (text : List Char) : forms.findSome? (·.readDate? text) = readDate? text := by
  rw [readDate?_eq_map, ← findSome?_read? every text, List.map_findSome?]
  congr 1
  funext form
  exact form.readDate?_eq_map text

end RecordRules.Calendar

namespace RecordRules

open Calendar

theorem Leaf.literal_eq_ok_iff {leaf : Leaf} {type : Scalar} (typed : leaf.type = .scalar type)
    {operator argument : String} {literal : Literal} :
    leaf.literal operator argument = .ok literal ↔ type.read? argument = some literal := by
  have bound : leaf.type.scalar?.bind (·.read? argument) = type.read? argument := by
    rw [typed]
    rfl
  rw [Leaf.literal, bound]
  cases type.read? argument <;> simp

/-- An argument is read for a field of dates exactly if it is for a field of points in time, and
the date is the day, in universal time, of the point in time.  At most one form fits a text, so
the order in which the forms are tried does not matter. -/
theorem Leaf.date_literals_truncate {dated timed : Leaf} (ofDates : dated.type = .scalar .date)
    (ofTimes : timed.type = .scalar .dateTime) (operator argument : String) :
    ((∃ literal, dated.literal operator argument = .ok literal) ↔
      ∃ literal, timed.literal operator argument = .ok literal) ∧
    (∀ literal, timed.literal operator argument = .ok literal →
      ∃ time, literal = .dateTime time ∧
        dated.literal operator argument = .ok (.date time.date) ∧
        time.date.InCalendar ∧
        time.date.dayNumber = time.seconds / DateTime.daySeconds) ∧
    (∀ (form other : Form) text time otherTime, form.read? text = some time →
      other.read? text = some otherTime → form = other) ∧
    (∀ forms : List Form, (∀ form, form ∈ forms) → ∀ text,
      forms.findSome? (·.read? text) = readDateTime? text ∧
        forms.findSome? (·.readDate? text) = readDate? text) := by
  have truncated : ∀ literal, timed.literal operator argument = .ok literal →
      ∃ time, literal = .dateTime time ∧
        dated.literal operator argument = .ok (.date time.date) ∧
        time.date.InCalendar ∧
        time.date.dayNumber = time.seconds / DateTime.daySeconds := by
    intro literal read
    obtain ⟨time, found, rfl⟩ := Option.map_eq_some_iff.mp ((literal_eq_ok_iff ofTimes).mp read)
    refine ⟨time, rfl, ?_, Date.ofDayNumber_spec _⟩
    rw [literal_eq_ok_iff ofDates]
    exact Option.map_eq_some_iff.mpr ⟨time.date, by rw [readDate?_eq_map, found]; rfl, rfl⟩
  refine ⟨⟨?_, ?_⟩, truncated, fun form other text time otherTime => Form.eq_of_read?, ?_⟩
  · rintro ⟨literal, read⟩
    obtain ⟨date, found, -⟩ := Option.map_eq_some_iff.mp ((literal_eq_ok_iff ofDates).mp read)
    rw [readDate?_eq_map] at found
    obtain ⟨time, foundTime, -⟩ := Option.map_eq_some_iff.mp found
    refine ⟨.dateTime time, ?_⟩
    rw [literal_eq_ok_iff ofTimes]
    exact Option.map_eq_some_iff.mpr ⟨time, foundTime, rfl⟩
  · rintro ⟨literal, read⟩
    obtain ⟨time, -, date, -⟩ := truncated literal read
    exact ⟨_, date⟩
  · intro forms every text
    exact ⟨findSome?_read? every text, findSome?_readDate? every text⟩

/-- A clock eight hours ahead shows a March morning while the date is the last of February. -/
theorem Leaf.date_literals_truncate_across_midnight :
    let dated : Leaf :=
      { path := "Born", owner := "Hero", type := .scalar .date, typeName := "NaiveDate"
        nullable := false, nullableParent := false, slots := [0] }
    let timed : Leaf :=
      { path := "Seen", owner := "Hero", type := .scalar .dateTime, typeName := "DateTime"
        nullable := false, nullableParent := false, slots := [1] }
    timed.literal "After" " 2024-03-01t07:30:00.5+08:00" =
        .ok (.dateTime ⟨1709249400, 500000000⟩) ∧
      dated.literal "After" " 2024-03-01t07:30:00.5+08:00" = .ok (.date ⟨2024, 2, 29⟩) := by
  intro dated timed
  have ofDates : dated.type = .scalar .date := rfl
  have ofTimes : timed.type = .scalar .dateTime := rfl
  obtain ⟨-, truncated, -, -⟩ :=
    date_literals_truncate ofDates ofTimes "After" " 2024-03-01t07:30:00.5+08:00"
  have read : timed.literal "After" " 2024-03-01t07:30:00.5+08:00" =
      .ok (.dateTime ⟨1709249400, 500000000⟩) :=
    (literal_eq_ok_iff ofTimes).mpr (by decide +kernel)
  obtain ⟨time, same, date, -, -⟩ := truncated _ read
  cases same
  exact ⟨read, date⟩

end RecordRules
