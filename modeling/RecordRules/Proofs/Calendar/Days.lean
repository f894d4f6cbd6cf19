import Mathlib.Algebra.Ring.Nat
import Mathlib.Data.List.Basic
import RecordRules.Calendar.Date

/-!
# Days and their numbers

A day of the calendar and its number from the first of January 1970 determine each other.
The days before a year grow by the length of each year, so that a day lies in exactly one
year, and the estimate of that year is set right by one comparison.  Inside the year the
months are passed over one after another.
-/

namespace RecordRules.Date

/-! ## Years -/

def yearLength (year : Int) : Int :=
  if isLeapYear year then 366 else 365

theorem isLeapYear_iff {year : Int} :
    isLeapYear year = true ↔ year % 4 = 0 ∧ (year % 100 ≠ 0 ∨ year % 400 = 0) := by
  simp [isLeapYear]

theorem daysBeforeYear_succ (year : Int) :
    daysBeforeYear (year + 1) = daysBeforeYear year + yearLength year := by
  unfold daysBeforeYear yearLength
  by_cases leap : isLeapYear year = true
  · have divisible := isLeapYear_iff.mp leap
    rw [if_pos leap]
    omega
  · have indivisible := mt isLeapYear_iff.mpr leap
    rw [if_neg leap]
    omega

theorem daysBeforeYear_mono {earlier later : Int} (ordered : earlier ≤ later) :
    daysBeforeYear earlier ≤ daysBeforeYear later := by
  unfold daysBeforeYear
  rcases Int.lt_or_eq_of_le ordered with less | rfl
  · omega
  · exact Int.le_refl _

theorem yearOfDay_spec (day : Int) :
    daysBeforeYear (yearOfDay day) ≤ day ∧ day < daysBeforeYear (yearOfDay day + 1) := by
  have low : daysBeforeYear (400 * day / 146097 + 1 - 1) ≤ day := by
    unfold daysBeforeYear
    omega
  have high : day < daysBeforeYear (400 * day / 146097 + 1 + 1 + 1) := by
    unfold daysBeforeYear
    omega
  unfold yearOfDay
  dsimp only
  split
  · next early =>
      rw [Int.sub_add_cancel]
      exact ⟨low, early⟩
  · next reached =>
      split
      · next behind => exact ⟨behind, high⟩
      · next ahead => exact ⟨Int.not_lt.mp reached, Int.not_le.mp ahead⟩

theorem yearOfDay_eq {year day : Int} (low : daysBeforeYear year ≤ day)
    (high : day < daysBeforeYear (year + 1)) : yearOfDay day = year := by
  obtain ⟨foundLow, foundHigh⟩ := yearOfDay_spec day
  apply Int.le_antisymm
  · by_contra later
    have apart : daysBeforeYear (year + 1) ≤ daysBeforeYear (yearOfDay day) :=
      daysBeforeYear_mono (by omega)
    omega
  · by_contra earlier
    have apart : daysBeforeYear (yearOfDay day + 1) ≤ daysBeforeYear year :=
      daysBeforeYear_mono (by omega)
    omega

/-! ## Months -/

theorem sum_monthLengths (year : Int) :
    ((monthLengths (isLeapYear year)).sum : Int) = yearLength year := by
  unfold yearLength
  cases isLeapYear year <;> rfl

/-- The days before a part of a run of lengths, and the days of that part, fit into the run. -/
theorem sum_take_add_getD_le (lengths : List Nat) (index : Nat) :
    (lengths.take index).sum + lengths.getD index 0 ≤ lengths.sum := by
  induction lengths generalizing index with
  | nil => simp
  | cons length rest ih =>
      cases index with
      | zero => simp
      | succ index =>
          have later := ih index
          rw [List.take_succ_cons, List.getD_cons_succ, List.sum_cons, List.sum_cons]
          omega

/-- A day of a part is found behind the parts before it. -/
theorem splitDay_sum_take {lengths : List Nat} {index day : Nat}
    (inside : day < lengths.getD index 0) (month : Nat) :
    splitDay month lengths ((lengths.take index).sum + day) = (month + index, day + 1) := by
  induction lengths generalizing index month with
  | nil => simp at inside
  | cons length rest ih =>
      cases index with
      | zero =>
          rw [List.getD_cons_zero] at inside
          simp [splitDay, inside]
      | succ index =>
          rw [List.getD_cons_succ] at inside
          rw [List.take_succ_cons, List.sum_cons, splitDay, if_neg (by omega)]
          have later := ih inside (month + 1)
          rw [show length + (rest.take index).sum + day - length =
            (rest.take index).sum + day by omega, later]
          congr 1
          omega

theorem exists_part_of_lt_sum {lengths : List Nat} {day : Nat} (inside : day < lengths.sum) :
    ∃ index rest, index < lengths.length ∧ rest < lengths.getD index 0 ∧
      day = (lengths.take index).sum + rest := by
  induction lengths generalizing day with
  | nil => simp at inside
  | cons length others ih =>
      rw [List.sum_cons] at inside
      by_cases first : day < length
      · exact ⟨0, day, by simp, by simpa using first, by simp⟩
      · have later : day - length < others.sum := by omega
        obtain ⟨index, rest, bounded, within, split⟩ := ih later
        refine ⟨index + 1, rest, by simpa using bounded, by simpa using within, ?_⟩
        rw [List.take_succ_cons, List.sum_cons]
        omega

/-! ## Days -/

theorem daysBeforeMonth_eq_sum (year : Int) (month : Nat) :
    daysBeforeMonth year month = ((monthLengths (isLeapYear year)).take (month - 1)).sum :=
  List.sum_eq_foldl.symm

/-- The calendar has the month and the day of a date, whatever its year. -/
structure InCalendar (date : Date) : Prop where
  month : 1 ≤ date.month ∧ date.month ≤ 12
  day : 1 ≤ date.day ∧ date.day ≤ monthLength date.year date.month

theorem inCalendar_of_ofParts? {year : Int} {month day : Nat} {date : Date}
    (made : ofParts? year month day = some date) : date.InCalendar := by
  obtain ⟨valid, same⟩ := Option.ite_none_right_eq_some.mp made
  obtain rfl := Option.some.inj same
  simp only [isValid, Bool.and_eq_true, decide_eq_true_eq] at valid
  obtain ⟨⟨⟨⟨_, first⟩, last⟩, start⟩, finish⟩ := valid
  exact ⟨⟨first, last⟩, ⟨start, finish⟩⟩

theorem ofDayNumber_dayNumber {date : Date} (known : date.InCalendar) :
    ofDayNumber date.dayNumber = date := by
  obtain ⟨year, month, day⟩ := date
  obtain ⟨⟨first, -⟩, ⟨start, finish⟩⟩ := known
  dsimp only at first start finish
  have inside : day - 1 < (monthLengths (isLeapYear year)).getD (month - 1) 0 := by
    rw [monthLength] at finish
    omega
  have fits := sum_take_add_getD_le (monthLengths (isLeapYear year)) (month - 1)
  have length := sum_monthLengths year
  have next := daysBeforeYear_succ year
  have before := daysBeforeMonth_eq_sum year month
  -- The day counted from the first of January of its year.
  have counted : dayNumber ⟨year, month, day⟩ + epochOffset =
      daysBeforeYear year +
        (((monthLengths (isLeapYear year)).take (month - 1)).sum + (day - 1) : Nat) := by
    simp only [dayNumber, before]
    omega
  have found : yearOfDay (dayNumber ⟨year, month, day⟩ + epochOffset) = year := by
    apply yearOfDay_eq
    · omega
    · omega
  have inYear : dayNumber ⟨year, month, day⟩ + epochOffset - daysBeforeYear year =
      (((monthLengths (isLeapYear year)).take (month - 1)).sum + (day - 1) : Nat) := by
    omega
  simp only [ofDayNumber, found, inYear, Int.toNat_natCast, splitDay_sum_take inside]
  congr 1
  · omega
  · omega

theorem ofDayNumber_spec (number : Int) :
    (ofDayNumber number).InCalendar ∧ (ofDayNumber number).dayNumber = number := by
  obtain ⟨low, high⟩ := yearOfDay_spec (number + epochOffset)
  generalize found : yearOfDay (number + epochOffset) = year at low high
  rw [daysBeforeYear_succ, ← sum_monthLengths] at high
  have inYear : (number + epochOffset - daysBeforeYear year).toNat <
      (monthLengths (isLeapYear year)).sum := by
    omega
  obtain ⟨index, rest, bounded, inside, split⟩ := exists_part_of_lt_sum inYear
  have parts : ofDayNumber number = ⟨year, 1 + index, rest + 1⟩ := by
    simp only [ofDayNumber, found, split, splitDay_sum_take inside]
  have months : (monthLengths (isLeapYear year)).length = 12 := rfl
  rw [parts]
  constructor
  · constructor
    · dsimp only
      omega
    · simp only [monthLength, Nat.add_sub_cancel_left]
      omega
  · simp only [dayNumber, daysBeforeMonth_eq_sum, Nat.add_sub_cancel_left]
    omega

/-- The days of the calendar and their numbers determine each other. -/
theorem ofDayNumber_eq_iff {date : Date} {number : Int} :
    ofDayNumber number = date ↔ date.InCalendar ∧ date.dayNumber = number := by
  constructor
  · rintro rfl
    exact ofDayNumber_spec number
  · rintro ⟨known, rfl⟩
    exact ofDayNumber_dayNumber known

end RecordRules.Date
