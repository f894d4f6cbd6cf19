import RecordRules.Calendar.DateTime
import RecordRules.Proofs.Calendar.Days

/-!
# The order of dates and of points in time

Days of the calendar are in the order of their numbers, since the days of a month come before
those of the next one and the days of a year before those of the next one.  Points in time are
in the order of their places on an axis on which every second has room for a leap second behind
it.
-/

namespace RecordRules

/-- An order that agrees with that of two integers in each of its cases is theirs. -/
theorem eq_compare_of_cases {a b : Int} {order : Ordering} (less : order = .lt → a < b)
    (same : order = .eq → a = b) (more : order = .gt → b < a) : order = compare a b := by
  cases order with
  | lt => exact (Int.compare_eq_lt.mpr (less rfl)).symm
  | eq => exact (Int.compare_eq_eq.mpr (same rfl)).symm
  | gt => exact (Int.compare_eq_gt.mpr (more rfl)).symm

namespace Date

theorem daysBeforeMonth_add_monthLength_le (year : Int) {month later : Nat} (first : 1 ≤ month)
    (ordered : month < later) :
    daysBeforeMonth year month + monthLength year month ≤ daysBeforeMonth year later := by
  have inside :=
    sum_take_add_getD_le ((monthLengths (isLeapYear year)).take (later - 1)) (month - 1)
  have shorter : min (month - 1) (later - 1) = month - 1 := by omega
  have kept : ((monthLengths (isLeapYear year)).take (later - 1)).getD (month - 1) 0 =
      monthLength year month := by
    rw [monthLength, List.getD_eq_getElem?_getD, List.getD_eq_getElem?_getD,
      List.getElem?_take_of_lt (by omega)]
  rw [List.take_take, shorter, kept] at inside
  rw [daysBeforeMonth_eq_sum, daysBeforeMonth_eq_sum]
  exact inside

theorem daysBeforeMonth_add_monthLength_le_yearLength (year : Int) (month : Nat) :
    (daysBeforeMonth year month + monthLength year month : Int) ≤ yearLength year := by
  have inside := sum_take_add_getD_le (monthLengths (isLeapYear year)) (month - 1)
  rw [← sum_monthLengths, daysBeforeMonth_eq_sum, monthLength]
  exact_mod_cast inside

section Order

variable {left right : Date} (knownLeft : left.InCalendar) (knownRight : right.InCalendar)

include knownLeft knownRight

theorem dayNumber_lt_of_year_lt (earlier : left.year < right.year) :
    left.dayNumber < right.dayNumber := by
  have next : daysBeforeYear left.year + yearLength left.year ≤ daysBeforeYear right.year := by
    rw [← daysBeforeYear_succ]
    exact daysBeforeYear_mono earlier
  have inside := daysBeforeMonth_add_monthLength_le_yearLength left.year left.month
  have last := knownLeft.day.2
  have first := knownRight.day.1
  unfold dayNumber
  omega

theorem dayNumber_lt_of_month_lt (sameYear : left.year = right.year)
    (earlier : left.month < right.month) : left.dayNumber < right.dayNumber := by
  have next := daysBeforeMonth_add_monthLength_le left.year knownLeft.month.1 earlier
  have last := knownLeft.day.2
  have first := knownRight.day.1
  unfold dayNumber
  rw [← sameYear]
  omega

theorem dayNumber_lt_of_order_eq_lt (before : left.order right = .lt) :
    left.dayNumber < right.dayNumber := by
  simp only [order, Ordering.then_eq_lt, Nat.compare_eq_lt, Nat.compare_eq_eq,
    Int.compare_eq_lt, Int.compare_eq_eq] at before
  rcases before with earlier | ⟨sameYear, earlier | ⟨sameMonth, earlier⟩⟩
  · exact dayNumber_lt_of_year_lt knownLeft knownRight earlier
  · exact dayNumber_lt_of_month_lt knownLeft knownRight sameYear earlier
  · unfold dayNumber
    rw [sameYear, sameMonth]
    omega

theorem order_eq_compare_dayNumber : left.order right = compare left.dayNumber right.dayNumber := by
  apply eq_compare_of_cases
  · exact dayNumber_lt_of_order_eq_lt knownLeft knownRight
  · intro same
    simp only [order, Ordering.then_eq_eq, Nat.compare_eq_eq, Int.compare_eq_eq] at same
    obtain ⟨year, month, day⟩ := same
    unfold dayNumber
    rw [year, month, day]
  · intro behind
    have swapped : right.order left = .lt := by
      rw [← Ordering.swap_inj, order, Ordering.swap_then, Ordering.swap_then,
        ← Std.OrientedOrd.eq_swap, ← Std.OrientedOrd.eq_swap, ← Std.OrientedOrd.eq_swap]
      exact behind
    exact dayNumber_lt_of_order_eq_lt knownRight knownLeft swapped

end Order

end Date

namespace DateTime

/-- A point in time lies in its second or in the leap second behind it. -/
def InSecond (time : DateTime) : Prop :=
  time.nanos < 2 * nanosPerSecond

/-- Whether a point in time lies in a leap second. -/
def IsLeap (time : DateTime) : Prop :=
  nanosPerSecond ≤ time.nanos

instance (time : DateTime) : Decidable time.IsLeap :=
  inferInstanceAs (Decidable (nanosPerSecond ≤ time.nanos))

/-- The place of a point in time, in nanoseconds, where every second has a leap second behind it. -/
def place (time : DateTime) : Int :=
  time.seconds * (2 * nanosPerSecond : Nat) + time.nanos

/-- The nanoseconds from the start of 1970, which count no leap seconds. -/
def sinceEpoch (time : DateTime) : Int :=
  time.seconds * nanosPerSecond + time.nanos

theorem order_eq_lt_iff {left right : DateTime} :
    left.order right = .lt ↔ left.seconds < right.seconds ∨
      left.seconds = right.seconds ∧ left.nanos < right.nanos := by
  simp only [order, Ordering.then_eq_lt, Nat.compare_eq_lt, Int.compare_eq_lt, Int.compare_eq_eq]

theorem order_eq_gt_iff {left right : DateTime} :
    left.order right = .gt ↔ right.seconds < left.seconds ∨
      left.seconds = right.seconds ∧ right.nanos < left.nanos := by
  simp only [order, Ordering.then_eq_gt, Nat.compare_eq_gt, Int.compare_eq_gt, Int.compare_eq_eq]

/-- In a second that is wide enough for all that lies in it, every point has a place of its own. -/
theorem scaled_lt_of_seconds_lt {left right : DateTime} {width : Nat}
    (inside : left.nanos < width) (earlier : left.seconds < right.seconds) :
    left.seconds * width + left.nanos < right.seconds * width + right.nanos := by
  have next : (left.seconds + 1) * (width : Int) ≤ right.seconds * width :=
    Int.mul_le_mul_of_nonneg_right earlier (Int.natCast_nonneg width)
  rw [Int.add_mul, Int.one_mul] at next
  omega

theorem order_eq_compare_scaled {left right : DateTime} {width : Nat}
    (insideLeft : left.nanos < width) (insideRight : right.nanos < width) :
    left.order right =
      compare (left.seconds * width + left.nanos) (right.seconds * width + right.nanos) := by
  apply eq_compare_of_cases
  · intro before
    rcases order_eq_lt_iff.mp before with earlier | ⟨same, earlier⟩
    · exact scaled_lt_of_seconds_lt insideLeft earlier
    · rw [same]
      omega
  · intro same
    simp only [order, Ordering.then_eq_eq, Nat.compare_eq_eq, Int.compare_eq_eq] at same
    rw [same.1, same.2]
  · intro behind
    rcases order_eq_gt_iff.mp behind with earlier | ⟨same, earlier⟩
    · exact scaled_lt_of_seconds_lt insideRight earlier
    · rw [same]
      omega

theorem order_eq_compare_place {left right : DateTime} (insideLeft : left.InSecond)
    (insideRight : right.InSecond) : left.order right = compare left.place right.place :=
  order_eq_compare_scaled insideLeft insideRight

theorem order_eq_compare_sinceEpoch {left right : DateTime} (plainLeft : ¬ left.IsLeap)
    (plainRight : ¬ right.IsLeap) :
    left.order right = compare left.sinceEpoch right.sinceEpoch :=
  order_eq_compare_scaled (Nat.lt_of_not_le plainLeft) (Nat.lt_of_not_le plainRight)

/-- A leap second lies behind all of the second that it extends and before the next one. -/
theorem order_eq_of_isLeap {leap plain : DateTime} (longer : leap.IsLeap)
    (ordinary : ¬ plain.IsLeap) :
    plain.order leap = if plain.seconds ≤ leap.seconds then .lt else .gt := by
  unfold IsLeap at longer ordinary
  split
  · next reached =>
      rw [order_eq_lt_iff]
      omega
  · next passed =>
      rw [order_eq_gt_iff]
      omega

end DateTime

end RecordRules
