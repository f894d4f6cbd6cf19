import RecordRules.Proofs.Calendar.Forms
import RecordRules.Proofs.Calendar.Order
import RecordRules.Proofs.Text.Digits

/-!
# Dates and times that are written and read back

Every field of a date or a time is written in a fixed number of digits, only years outside
the four digits in more of them and with a sign.  The reader of a field takes as many digits,
so the readers of fields find in a text exactly what was put there, one after the other.  The
fraction of a second is written in three, six or nine digits; what is left out are zeros, which
the reader of the fraction puts back.  A leap second is written as the second 60 and read as
the second before it, with a second more of nanoseconds.
-/

namespace RecordRules.Calendar

open Text

/-! ## Numbers -/

/-- The digits of a number at the width of a field are read as that number. -/
theorem exactDigits_padded {count n : Nat} (positive : 0 < count) (small : n < 10 ^ count)
    (rest : List Char) :
    exactDigits count (padZeros count (decimalDigits n) ++ rest) = some (n, rest) := by
  have length := length_padded positive small
  have digit : (padZeros count (decimalDigits n)).all isDigit = true :=
    List.all_eq_true.mpr fun _ => isDigit_of_mem_padded
  simp only [exactDigits, List.take_left' length, List.drop_left' length, length, digit,
    decide_true, Bool.and_self, if_true, natValue_padZeros, natValue_decimalDigits]

theorem field_padded {n : Nat} (small : n < 100) (rest : List Char) :
    field (padZeros 2 (decimalDigits n) ++ rest) = some (n, rest) :=
  field_of_exactDigits (exactDigits_padded (by decide) small rest)

theorem allDigits_padded (width n : Nat) {rest : List Char}
    (ends : ∀ c ∈ rest.head?, isDigit c = false) :
    allDigits (padZeros width (decimalDigits n) ++ rest) = some (n, rest) := by
  have digit : ∀ c ∈ padZeros width (decimalDigits n), isDigit c = true :=
    fun _ => isDigit_of_mem_padded
  have taken := takeDigits_of_run digit ends
  have nonempty : (padZeros width (decimalDigits n)).isEmpty = false :=
    List.isEmpty_eq_false_iff.mpr (padded_ne_nil width n)
  simp only [allDigits, taken, nonempty, natValue_padZeros, natValue_decimalDigits]
  rfl

/-! ## Dates -/

theorem year_writeYear (value : Int) {rest : List Char}
    (ends : ∀ c ∈ rest.head?, isDigit c = false) :
    year (Date.writeYear value ++ rest) = some (value, rest) := by
  have digits := allDigits_padded 4 value.natAbs ends
  simp only [Date.writeYear]
  split
  · next negative =>
      rw [List.cons_append, year, trimStart_cons_of_not_blank rfl]
      simp only [digits, Option.map_some]
      rw [show -(value.natAbs : Int) = value by omega]
  · split
    · next positive large =>
        rw [List.cons_append, year, trimStart_cons_of_not_blank rfl]
        simp only [digits, Option.map_some]
        rw [show (value.natAbs : Int) = value by omega]
    · next positive small =>
        have fits : value.natAbs < 10 ^ 4 := by omega
        rw [year_of_exactDigits (exactDigits_padded (by decide) fits rest)]
        rw [show (value.natAbs : Int) = value by omega]

theorem monthLength_le (year : Int) {month : Nat} (known : 1 ≤ month ∧ month ≤ 12) :
    Date.monthLength year month ≤ 31 := by
  have every : ∀ leap, ∀ index < 12, (Date.monthLengths leap).getD index 0 ≤ 31 := by decide
  exact every _ _ (by omega)

theorem dateFields_write {date : Date} (valid : date.isValid = true) (rest : List Char) :
    dateFields (date.write ++ rest) = some (date, rest) := by
  have made : Date.ofParts? date.year date.month date.day = some date := if_pos valid
  obtain ⟨months, days⟩ := Date.inCalendar_of_ofParts? made
  have lastDay := monthLength_le date.year months
  have smallMonth : date.month < 100 := by omega
  have smallDay : date.day < 100 := by omega
  have ends : ∀ (later : List Char), ∀ c ∈ ('-' :: later).head?, isDigit c = false := by
    intro later c first
    obtain rfl := Option.some.inj first
    rfl
  simp only [Date.write, List.append_assoc, List.cons_append, dateFields, Option.bind_eq_bind,
    year_writeYear date.year (ends _), mark_cons, field_padded smallMonth, field_padded smallDay,
    made, Option.bind_some]

theorem plainDate?_write {date : Date} (valid : date.isValid = true) :
    plainDate? date.write = some date := by
  have fields := dateFields_write valid []
  rw [List.append_nil] at fields
  rw [plainDate?, fields]
  rfl

theorem readDate?_write {date : Date} (valid : date.isValid = true) :
    readDate? date.write = some date := by
  rw [readDate?, plainDate?_write valid]

/-! ## Times -/

/-- Digits of a fraction count from the point, so zeros at its end may be left out. -/
theorem fractionDigits_padded {places n : Nat} (positive : 0 < places) (most : places ≤ 9)
    (small : n < 10 ^ places) :
    fractionDigits (padZeros places (decimalDigits n)) = some (n * tenTo (9 - places), []) := by
  have digit : ∀ c ∈ padZeros places (decimalDigits n), isDigit c = true :=
    fun _ => isDigit_of_mem_padded
  have taken := takeDigits_eq_of_forall digit
  have length := length_padded positive small
  have kept : (padZeros places (decimalDigits n)).take 9 = padZeros places (decimalDigits n) :=
    List.take_of_length_le (by omega)
  have nonempty : (padZeros places (decimalDigits n)).isEmpty = false :=
    List.isEmpty_eq_false_iff.mpr (padded_ne_nil places n)
  simp only [fractionDigits, taken, nonempty, kept, length, natValue_padZeros,
    natValue_decimalDigits]
  rfl

theorem fraction_writeFraction {nanos : Nat} (small : nanos < DateTime.nanosPerSecond) :
    fraction (DateTime.writeFraction nanos) = some (nanos, []) := by
  rw [DateTime.nanosPerSecond] at small
  rw [DateTime.writeFraction]
  split
  · next zero =>
      rw [zero]
      rfl
  · split
    · next millis =>
        refine (fractionDigits_padded (by decide) (by decide) ?_).trans ?_
        · omega
        · rw [show nanos / 1000000 * tenTo (9 - 3) = nanos from Nat.div_mul_cancel
            (Nat.dvd_of_mod_eq_zero millis)]
    · split
      · next micros =>
          refine (fractionDigits_padded (by decide) (by decide) ?_).trans ?_
          · omega
          · rw [show nanos / 1000 * tenTo (9 - 6) = nanos from Nat.div_mul_cancel
              (Nat.dvd_of_mod_eq_zero micros)]
      · refine (fractionDigits_padded (by decide) (by decide) small).trans ?_
        rw [show nanos * tenTo (9 - 9) = nanos from Nat.mul_one nanos]

end RecordRules.Calendar

namespace RecordRules.DateTime

/-- The points in time that are held: the day is in the range of dates, and a leap second is the
last second of its minute. -/
structure IsProper (time : DateTime) : Prop where
  date : time.date.isValid = true
  inSecond : time.InSecond
  leap : time.IsLeap → time.seconds % 60 = 59

/-- The second of the minute that is written, which is 60 in a leap second. -/
def secondWritten (time : DateTime) : Nat :=
  time.secondOfDay % 60 + if nanosPerSecond ≤ time.nanos then 1 else 0

/-- The nanoseconds that are written, which a leap second counts from its own start. -/
def nanosWritten (time : DateTime) : Nat :=
  if nanosPerSecond ≤ time.nanos then time.nanos - nanosPerSecond else time.nanos

variable {time : DateTime}

theorem seconds_eq (time : DateTime) :
    time.date.dayNumber * daySeconds + time.secondOfDay = time.seconds := by
  have day : time.date.dayNumber = time.seconds / daySeconds := (Date.ofDayNumber_spec _).2
  rw [day, secondOfDay, daySeconds]
  omega

theorem secondOfDay_lt (time : DateTime) : time.secondOfDay < 86400 := by
  rw [secondOfDay, daySeconds]
  omega

theorem nanosWritten_lt (proper : time.IsProper) : time.nanosWritten < nanosPerSecond := by
  have bound := proper.inSecond
  rw [InSecond] at bound
  rw [nanosWritten]
  split <;> omega

theorem secondWritten_le (time : DateTime) : time.secondWritten ≤ 60 := by
  rw [secondWritten]
  split <;> omega

theorem ofFields?_written (proper : time.IsProper) :
    ofFields? time.date (time.secondOfDay / 3600) (time.secondOfDay / 60 % 60)
      time.secondWritten time.nanosWritten = some time := by
  have total := time.seconds_eq
  have inDay := time.secondOfDay_lt
  have within : time.secondOfDay / 3600 ≤ 23 ∧ time.secondOfDay / 60 % 60 ≤ 59 ∧
      time.secondWritten ≤ 60 :=
    ⟨by omega, by omega, time.secondWritten_le⟩
  rw [ofFields?, if_pos within]
  obtain ⟨seconds, nanos⟩ := time
  by_cases leap : nanosPerSecond ≤ nanos
  · have last : secondOfDay ⟨seconds, nanos⟩ % 60 = 59 := by
      have minute := proper.leap leap
      rw [secondOfDay, daySeconds]
      dsimp only at minute ⊢
      omega
    have sixty : secondWritten ⟨seconds, nanos⟩ = 60 := by
      simp only [secondWritten, last, if_pos leap]
    have rest : nanosWritten ⟨seconds, nanos⟩ + nanosPerSecond = nanos := by
      simp only [nanosWritten, if_pos leap]
      omega
    simp only [sixty, if_true, rest, Option.some.injEq, DateTime.mk.injEq, and_true]
    dsimp only at total
    omega
  · have plain : secondWritten ⟨seconds, nanos⟩ = secondOfDay ⟨seconds, nanos⟩ % 60 := by
      simp only [secondWritten, if_neg leap, Nat.add_zero]
    have notSixty : ¬ secondOfDay ⟨seconds, nanos⟩ % 60 = 60 := by omega
    simp only [plain, if_neg notSixty, nanosWritten, if_neg leap, Option.some.injEq,
      DateTime.mk.injEq, and_true]
    dsimp only at total
    omega

end RecordRules.DateTime

namespace RecordRules.Calendar

open Text

variable {time : DateTime}

theorem timeFields_writeTime (proper : time.IsProper) :
    timeFields time.date time.writeTime = some (time, []) := by
  have inDay := time.secondOfDay_lt
  have hour : time.secondOfDay / 3600 < 100 := by omega
  have minute : time.secondOfDay / 60 % 60 < 100 := by omega
  have second : time.secondWritten < 100 := Nat.lt_of_le_of_lt time.secondWritten_le (by decide)
  have written : time.writeTime =
      padZeros 2 (decimalDigits (time.secondOfDay / 3600)) ++
        ':' :: (padZeros 2 (decimalDigits (time.secondOfDay / 60 % 60)) ++
          ':' :: (padZeros 2 (decimalDigits time.secondWritten) ++
            DateTime.writeFraction time.nanosWritten)) := by
    simp only [DateTime.writeTime, DateTime.secondWritten, DateTime.nanosWritten]
  simp only [written, timeFields, Option.bind_eq_bind, field_padded hour, field_padded minute,
    field_padded second, mark_cons, fraction_writeFraction (DateTime.nanosWritten_lt proper),
    DateTime.ofFields?_written proper, Option.bind_some]

/-- A point in time is read back from its text with a blank between date and time. -/
theorem readDateTime?_writeBetween (proper : time.IsProper) :
    readDateTime? (time.writeBetween ' ') = some time := by
  have fits : spaced? (time.writeBetween ' ') = some time := by
    have dated := dateFields_write proper.date (' ' :: time.writeTime)
    have timed : timeFields time.date (trimStart (' ' :: time.writeTime)) = some (time, []) := by
      rw [trimStart_cons_of_blank rfl, timeFields_trimStart, timeFields_writeTime proper]
    simp only [spaced?, DateTime.writeBetween, Option.bind_eq_bind, dated, timed, Option.bind_some]
    rfl
  exact readDateTime?_eq_some_iff.mpr ⟨.spaced, fits⟩

end RecordRules.Calendar

/-! ## Blanks in what is written -/

namespace RecordRules

open Text

theorem Date.isBlank_of_mem_write {date : Date} {c : Char} (member : c ∈ date.write) :
    isBlank c = false := by
  simp only [write, writeYear, List.mem_append, List.mem_cons] at member
  rcases member with year | rfl | month | rfl | day
  · split at year
    · rcases List.mem_cons.mp year with rfl | digit
      · rfl
      · exact isBlank_of_mem_padded digit
    · split at year
      · rcases List.mem_cons.mp year with rfl | digit
        · rfl
        · exact isBlank_of_mem_padded digit
      · exact isBlank_of_mem_padded year
  · rfl
  · exact isBlank_of_mem_padded month
  · rfl
  · exact isBlank_of_mem_padded day

theorem DateTime.isBlank_of_mem_writeFraction {nanos : Nat} {c : Char}
    (member : c ∈ writeFraction nanos) : isBlank c = false := by
  have behindPoint : ∀ {width n}, c ∈ '.' :: padZeros width (decimalDigits n) →
      isBlank c = false := by
    intro width n member
    rcases List.mem_cons.mp member with rfl | digit
    · rfl
    · exact isBlank_of_mem_padded digit
  rw [writeFraction] at member
  split at member
  · cases member
  · split at member
    · exact behindPoint member
    · split at member
      · exact behindPoint member
      · exact behindPoint member

theorem DateTime.isBlank_of_mem_writeTime {time : DateTime} {c : Char}
    (member : c ∈ time.writeTime) : isBlank c = false := by
  simp only [writeTime, List.mem_append, List.mem_cons] at member
  rcases member with hour | rfl | minute | rfl | second | fraction
  · exact isBlank_of_mem_padded hour
  · rfl
  · exact isBlank_of_mem_padded minute
  · rfl
  · exact isBlank_of_mem_padded second
  · exact isBlank_of_mem_writeFraction fraction

theorem DateTime.solid_writeBetween (time : DateTime) : Solid (time.writeBetween ' ') := by
  have shape : time.writeBetween ' ' = time.date.write ++ [' '] ++ time.writeTime := by
    simp [writeBetween]
  rw [shape]
  apply Solid.between
  · exact fun _ => Date.isBlank_of_mem_write
  · exact fun _ => isBlank_of_mem_writeTime
  · simp [Date.write]
  · simp [writeTime]

end RecordRules
