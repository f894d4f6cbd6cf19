import RecordRules.Proofs.Calendar.Order
import RecordRules.Proofs.Literal.Kind

/-!
# The order of values and literals

A value and a literal stand for mathematical objects: truth values, integers, rational numbers,
texts as their code points, points in time, days, identifiers as their bytes, and numbers
between two infinities.  The order of a value relative to a literal is that of the two objects.
So it does not matter which of two things is held as a value and which as a literal, and
orders can be chained across all ways to hold them.
-/

namespace RecordRules

/-! ## Bytes and code points -/

/-- The bytes of a number below a power of 256, the most significant first. -/
def bytes : (count : Nat) → (value : Nat) → List Nat
  | 0, _ => []
  | count + 1, value => value / 256 ^ count :: bytes count (value % 256 ^ count)

/-- Quotients decide the order of numbers before remainders do. -/
theorem compare_eq_then_div_mod (a b : Nat) {divisor : Nat} (positive : 0 < divisor) :
    compare a b = (compare (a / divisor) (b / divisor)).then
      (compare (a % divisor) (b % divisor)) := by
  have splitA := Nat.div_add_mod a divisor
  have splitB := Nat.div_add_mod b divisor
  have restA := Nat.mod_lt a positive
  have restB := Nat.mod_lt b positive
  cases quotients : compare (a / divisor) (b / divisor) with
  | lt =>
      have next := Nat.mul_le_mul_left divisor (Nat.compare_eq_lt.mp quotients)
      rw [Nat.mul_succ] at next
      exact Nat.compare_eq_lt.mpr (by omega)
  | gt =>
      have next := Nat.mul_le_mul_left divisor (Nat.compare_eq_gt.mp quotients)
      rw [Nat.mul_succ] at next
      exact Nat.compare_eq_gt.mpr (by omega)
  | eq =>
      rw [Nat.compare_eq_eq.mp quotients] at splitA
      rw [Ordering.then]
      cases rests : compare (a % divisor) (b % divisor) with
      | lt =>
          have less := Nat.compare_eq_lt.mp rests
          exact Nat.compare_eq_lt.mpr (by omega)
      | gt =>
          have more := Nat.compare_eq_gt.mp rests
          exact Nat.compare_eq_gt.mpr (by omega)
      | eq =>
          have same := Nat.compare_eq_eq.mp rests
          exact Nat.compare_eq_eq.mpr (by omega)

theorem compare_bytes {count a b : Nat} (boundA : a < 256 ^ count) (boundB : b < 256 ^ count) :
    compare (bytes count a) (bytes count b) = compare a b := by
  induction count generalizing a b with
  | zero =>
      obtain rfl := Nat.lt_one_iff.mp boundA
      obtain rfl := Nat.lt_one_iff.mp boundB
      rfl
  | succ count ih =>
      have positive : 0 < 256 ^ count := Nat.pow_pos (by decide)
      rw [bytes, bytes, List.compare_cons_cons, ih (Nat.mod_lt a positive) (Nat.mod_lt b positive),
        ← compare_eq_then_div_mod a b positive]

theorem Text.lt_iff_toNat_lt {a b : Char} : a < b ↔ a.toNat < b.toNat :=
  Char.lt_def.trans UInt32.lt_iff_toNat_lt

theorem Text.compare_eq_compare_toNat (a b : Char) : compare a b = compare a.toNat b.toNat := by
  change compareOfLessAndEq a b = _
  unfold compareOfLessAndEq
  cases compared : compare a.toNat b.toNat with
  | lt => rw [if_pos (lt_iff_toNat_lt.mpr (Nat.compare_eq_lt.mp compared))]
  | eq =>
      obtain rfl := Char.toNat_inj.mp (Nat.compare_eq_eq.mp compared)
      rw [if_neg (mt lt_iff_toNat_lt.mp (Nat.lt_irrefl _)), if_pos rfl]
  | gt =>
      have more := Nat.compare_eq_gt.mp compared
      rw [if_neg (mt lt_iff_toNat_lt.mp (by omega)), if_neg]
      rintro rfl
      exact Nat.lt_irrefl _ more

theorem Text.compare_eq_compare_codePoints (left right : List Char) :
    compare left right = compare (left.map Char.toNat) (right.map Char.toNat) := by
  induction left generalizing right with
  | nil => cases right <;> rfl
  | cons first rest ih =>
      cases right with
      | nil => rfl
      | cons other others =>
          rw [List.map_cons, List.map_cons, List.compare_cons_cons, List.compare_cons_cons, ih,
            compare_eq_compare_toNat]

/-! ## What values stand for -/

/-- The objects that values and literals stand for. -/
inductive Meaning where
  | truth (value : Bool)
  | integer (value : Int)
  | number (value : WithBot (WithTop ℚ))
  | fraction (value : ℚ)
  | codePoints (value : List Nat)
  /-- The place of a point in time. -/
  | instant (value : Int)
  /-- The number of a day. -/
  | day (value : Int)
  | bytes (value : List Nat)

/-- The order of two objects of one sort; between different sorts there is none. -/
def Meaning.compare? : Meaning → Meaning → Option Ordering
  | .truth a, .truth b => some (compare a b)
  | .integer a, .integer b => some (compare a b)
  | .number a, .number b => some (compare a b)
  | .fraction a, .fraction b => some (compare a b)
  | .codePoints a, .codePoints b => some (compare a b)
  | .instant a, .instant b => some (compare a b)
  | .day a, .day b => some (compare a b)
  | .bytes a, .bytes b => some (compare a b)
  | _, _ => none

def Meaning.kind : Meaning → ValueKind
  | .truth _ => .bool
  | .integer _ => .integer
  | .number _ => .float
  | .fraction _ => .decimal
  | .codePoints _ => .text
  | .instant _ => .dateTime
  | .day _ => .date
  | .bytes _ => .uuid

/-- What a value stands for; absent values, records, values that stay closed and NaN for nothing. -/
def Value.meaning? : Value → Option Meaning
  | .bool value => some (.truth value)
  | .signed value => some (.integer value)
  | .unsigned value => some (.integer value)
  | .float value => value.value?.map .number
  | .decimal value => some (.fraction value.value)
  | .text value => some (.codePoints (value.toList.map Char.toNat))
  | .dateTime value => some (.instant value.place)
  | .date value => some (.day value.dayNumber)
  | .uuid value => some (.bytes (RecordRules.bytes 16 value.value))
  | .null | .record _ _ | .other => none

/-- Whether a value is one of its kind: a day of the calendar, a point in a second or in the leap
second behind it, an identifier of 16 bytes. -/
def Value.Proper : Value → Prop
  | .date day => day.InCalendar
  | .dateTime time => time.InSecond
  | .uuid identifier => identifier.value < 256 ^ 16
  | _ => True

namespace Meaning

theorem compare?_swap (left right : Meaning) :
    left.compare? right = (right.compare? left).map Ordering.swap := by
  cases left <;> cases right <;>
    first
    | rfl
    | exact congrArg some Std.OrientedOrd.eq_swap

theorem compare_eq_then {α : Type} [Ord α] [Std.TransOrd α] {a b c : α}
    (first : (compare a b).isLE = true) (second : (compare b c).isLE = true) :
    compare a c = (compare a b).then (compare b c) := by
  cases compared : compare a b with
  | lt => exact Std.TransCmp.lt_of_lt_of_isLE compared second
  | eq => exact Std.TransCmp.congr_left compared
  | gt =>
      rw [compared] at first
      cases first

/-- Orders chain: what is not above a second object is not above what the second is not above. -/
theorem compare?_eq_then {left middle right : Meaning} {first second : Ordering}
    (below : left.compare? middle = some first) (above : middle.compare? right = some second)
    (firstLE : first.isLE = true) (secondLE : second.isLE = true) :
    left.compare? right = some (first.then second) := by
  cases left <;> cases middle <;> cases below <;> cases right <;> cases above <;>
    exact congrArg some (compare_eq_then firstLE secondLE)

theorem compare?_eq_none_of_ne {left right : Meaning} (different : left.kind ≠ right.kind) :
    left.compare? right = none := by
  cases left <;> cases right <;>
    first
    | rfl
    | exact absurd rfl different

end Meaning

theorem Value.kind?_eq_of_meaning? {value : Value} {meaning : Meaning}
    (stands : value.meaning? = some meaning) : value.kind? = some meaning.kind := by
  cases value with
  | float number =>
      obtain ⟨_, -, rfl⟩ := Option.map_eq_some_iff.mp stands
      rfl
  | null => cases stands
  | record => cases stands
  | other => cases stands
  | _ =>
      obtain rfl := Option.some.inj stands
      rfl

theorem Literal.kind?_value (literal : Literal) : literal.value.kind? = some literal.kind := by
  cases literal <;> rfl

/-! ## The order -/

namespace Literal

variable {literal : Literal} {value : Value}

theorem order?_eq_of_different (different : value.kind? ≠ some literal.kind) :
    literal.order? value =
      value.meaning?.bind fun left => literal.value.meaning?.bind (left.compare? ·) := by
  rw [(order?_eq_none_iff literal value).mpr (.inl different), eq_comm, Option.bind_eq_none_iff]
  intro left stands
  rw [Option.bind_eq_none_iff]
  intro right standsToo
  apply Meaning.compare?_eq_none_of_ne
  intro same
  have kind := Value.kind?_eq_of_meaning? standsToo
  rw [kind?_value] at kind
  rw [kind, ← same] at different
  exact different (Value.kind?_eq_of_meaning? stands)

theorem order?_float (a b : Double) :
    (float b).order? (.float a) =
      (Value.float a).meaning?.bind fun left =>
        (Literal.float b).value.meaning?.bind (left.compare? ·) := by
  cases left : a.value? with
  | none =>
      obtain rfl := a.value?_eq_none_iff.mp left
      rfl
  | some x =>
      cases right : b.value? with
      | none =>
          obtain rfl := b.value?_eq_none_iff.mp right
          simp only [Value.meaning?, Literal.value, left]
          exact (Double.order?_eq_none_iff a .nan).mpr (.inr rfl)
      | some y =>
          simp only [Value.meaning?, Literal.value, left, right]
          exact Double.order?_eq_compare_value left right

/-- A value relative to a literal is ordered as what the two stand for. -/
theorem order?_eq_compare?_meaning (properLiteral : literal.value.Proper)
    (properValue : value.Proper) :
    literal.order? value =
      value.meaning?.bind fun left => literal.value.meaning?.bind (left.compare? ·) := by
  by_cases kinds : value.kind? = some literal.kind
  · cases value with
    | bool a =>
        cases literal with
        | bool b => cases a <;> cases b <;> rfl
        | _ => cases kinds
    | signed a =>
        cases literal with
        | signed b => rfl
        | unsigned b => rfl
        | _ => cases kinds
    | unsigned a =>
        cases literal with
        | signed b => rfl
        | unsigned b => exact congrArg some (compare_natCast a b).symm
        | _ => cases kinds
    | float a =>
        cases literal with
        | float b => exact order?_float a b
        | _ => cases kinds
    | decimal a =>
        cases literal with
        | decimal b => exact congrArg some (a.order_eq_compare_value b)
        | _ => cases kinds
    | text a =>
        cases literal with
        | text b => exact congrArg some (Text.compare_eq_compare_codePoints a.toList b.toList)
        | _ => cases kinds
    | dateTime a =>
        cases literal with
        | dateTime b =>
            exact congrArg some (DateTime.order_eq_compare_place properValue properLiteral)
        | _ => cases kinds
    | date a =>
        cases literal with
        | date b => exact congrArg some (Date.order_eq_compare_dayNumber properValue properLiteral)
        | _ => cases kinds
    | uuid a =>
        cases literal with
        | uuid b => exact congrArg some (compare_bytes properValue properLiteral).symm
        | _ => cases kinds
    | _ => cases kinds
  · exact order?_eq_of_different kinds

theorem exists_value_eq_of_order? {order : Ordering}
    (ordered : literal.order? value = some order) : ∃ other : Literal, other.value = value := by
  have kinds : value.kind? = some literal.kind := by
    by_contra different
    rw [(order?_eq_none_iff literal value).mpr (.inl different)] at ordered
    cases ordered
  cases value with
  | bool a => exact ⟨.bool a, rfl⟩
  | signed a => exact ⟨.signed a, rfl⟩
  | unsigned a => exact ⟨.unsigned a, rfl⟩
  | float a => exact ⟨.float a, rfl⟩
  | decimal a => exact ⟨.decimal a, rfl⟩
  | text a => exact ⟨.text a, rfl⟩
  | dateTime a => exact ⟨.dateTime a, rfl⟩
  | date a => exact ⟨.date a, rfl⟩
  | uuid a => exact ⟨.uuid a, rfl⟩
  | _ => cases kinds

theorem order?_swap {other : Literal} (properLiteral : literal.value.Proper)
    (properOther : other.value.Proper) :
    other.order? literal.value = (literal.order? other.value).map Ordering.swap := by
  rw [order?_eq_compare?_meaning properOther properLiteral,
    order?_eq_compare?_meaning properLiteral properOther]
  cases literal.value.meaning? with
  | none => cases other.value.meaning? <;> rfl
  | some left =>
      cases other.value.meaning? with
      | none => rfl
      | some right => exact left.compare?_swap right

theorem exists_meanings_of_order? {order : Ordering} (properLiteral : literal.value.Proper)
    (properValue : value.Proper) (ordered : literal.order? value = some order) :
    ∃ left right, value.meaning? = some left ∧ literal.value.meaning? = some right ∧
      left.compare? right = some order := by
  rw [order?_eq_compare?_meaning properLiteral properValue] at ordered
  obtain ⟨left, stands, ordered⟩ := Option.bind_eq_some_iff.mp ordered
  obtain ⟨right, standsToo, ordered⟩ := Option.bind_eq_some_iff.mp ordered
  exact ⟨left, right, stands, standsToo, ordered⟩

theorem order?_eq_then {last : Literal} {first second : Ordering}
    (properValue : value.Proper) (properLiteral : literal.value.Proper)
    (properLast : last.value.Proper) (below : literal.order? value = some first)
    (above : last.order? literal.value = some second) (firstLE : first.isLE = true)
    (secondLE : second.isLE = true) : last.order? value = some (first.then second) := by
  obtain ⟨left, middle, valued, stands, compared⟩ :=
    exists_meanings_of_order? properLiteral properValue below
  obtain ⟨again, right, standsToo, lastStands, comparedToo⟩ :=
    exists_meanings_of_order? properLast properLiteral above
  obtain rfl := Option.some.inj (stands.symm.trans standsToo)
  rw [order?_eq_compare?_meaning properLast properValue, valued, lastStands]
  exact Meaning.compare?_eq_then compared comparedToo firstLE secondLE

/-- A value has an order relative to a literal exactly if both are of one kind and neither is
NaN, and it is the order of what the two stand for. -/
theorem order?_eq_order_of_meanings (properLiteral : literal.value.Proper)
    (properValue : value.Proper) :
    ((literal.order? value).isSome = true ↔
      value.kind? = some literal.kind ∧ value ≠ .float .nan ∧ literal ≠ .float .nan) ∧
    literal.order? value =
      (value.meaning?.bind fun left => literal.value.meaning?.bind (left.compare? ·)) ∧
    (∀ a b : DateTime, value = .dateTime a → literal = .dateTime b → ¬ a.IsLeap →
      literal.order? value =
        some (if b.IsLeap then if a.seconds ≤ b.seconds then .lt else .gt
          else compare a.sinceEpoch b.sinceEpoch)) ∧
    ((literal.order? value).isSome = true → ∃ other : Literal, other.value = value ∧
      other.order? literal.value = (literal.order? value).map Ordering.swap) ∧
    (∀ (last : Literal) (first second : Ordering), last.value.Proper →
      literal.order? value = some first → last.order? literal.value = some second →
      first.isLE = true → second.isLE = true →
      last.order? value = some (first.then second)) := by
  refine ⟨?_, order?_eq_compare?_meaning properLiteral properValue, ?_, ?_, ?_⟩
  · rw [Option.isSome_iff_ne_none, Ne, order?_eq_none_iff, not_or, not_or, not_ne_iff]
  · rintro a b rfl rfl plain
    by_cases leap : b.IsLeap
    · rw [if_pos leap]
      exact congrArg some (DateTime.order_eq_of_isLeap leap plain)
    · rw [if_neg leap]
      exact congrArg some (DateTime.order_eq_compare_sinceEpoch plain leap)
  · intro ordered
    obtain ⟨order, ordered⟩ := Option.isSome_iff_exists.mp ordered
    obtain ⟨other, rfl⟩ := exists_value_eq_of_order? ordered
    exact ⟨other, rfl, order?_swap properLiteral properValue⟩
  · intro last first second properLast below above
    exact order?_eq_then properValue properLiteral properLast below above

/-- A leap second at the end of a year lies between the year's last second and the next year. -/
theorem order?_eq_order_of_meanings_at_leap_second :
    let before : Value := .dateTime ⟨1483228799, 999999999⟩
    let leap : Literal := .dateTime ⟨1483228799, 1500000000⟩
    let after : Literal := .dateTime ⟨1483228800, 0⟩
    leap.value.Proper ∧ before.Proper ∧ after.value.Proper ∧
      leap.order? before = some .lt ∧
      (∃ other : Literal, other.value = before ∧ other.order? leap.value = some .gt) ∧
      after.order? leap.value = some .lt ∧ after.order? before = some .lt := by
  intro before leap after
  have properLeap : leap.value.Proper := (by decide : 1500000000 < 2 * DateTime.nanosPerSecond)
  have properBefore : before.Proper := (by decide : 999999999 < 2 * DateTime.nanosPerSecond)
  have properAfter : after.value.Proper := (by decide : 0 < 2 * DateTime.nanosPerSecond)
  obtain ⟨-, -, timed, turned, chained⟩ := order?_eq_order_of_meanings properLeap properBefore
  have below : leap.order? before = some .lt := timed _ _ rfl rfl (by decide)
  obtain ⟨other, same, ordered⟩ := turned (by rw [below]; rfl)
  rw [below] at ordered
  have above : after.order? leap.value = some .lt := by decide
  exact ⟨properLeap, properBefore, properAfter, below, ⟨other, same, ordered⟩, above,
    chained after .lt .lt properAfter below above rfl rfl⟩

end Literal

end RecordRules
