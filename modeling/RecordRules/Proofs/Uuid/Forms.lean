import RecordRules.Proofs.Text.Digits
import RecordRules.Uuid

/-!
# The forms of identifiers

An identifier is read back from each of its forms: its digits without hyphens, the digits in
their groups, these in braces, and these behind the mark of a resource.  The case of letters
matters nowhere in a text that an identifier is read from.
-/

namespace RecordRules.Uuid

open Text

/-! ## The case of letters -/

theorem asciiLower_eq_iff {c other : Char} (low : other.toNat < 65 ∨ 122 < other.toNat) :
    asciiLower c = other ↔ c = other := by
  rw [← Char.toNat_inj, ← Char.toNat_inj, toNat_asciiLower]
  split <;> omega

theorem simple?_map_asciiLower (text : List Char) :
    simple? (text.map asciiLower) = simple? text := by
  simp only [simple?, List.length_map, hexNumber?_map_asciiLower]

theorem splitOn_map_asciiLower (text : List Char) :
    (text.map asciiLower).splitOn '-' = (text.splitOn '-').map (List.map asciiLower) := by
  induction text with
  | nil => rfl
  | cons c rest ih =>
      have same : (asciiLower c == '-') = (c == '-') := by
        rw [Bool.eq_iff_iff, beq_iff_eq, beq_iff_eq]
        exact asciiLower_eq_iff (.inl (by decide))
      rw [List.map_cons, List.splitOn_cons_eq_if_modifyHead, List.splitOn_cons_eq_if_modifyHead,
        same, ih]
      split
      · rfl
      · cases rest.splitOn '-' <;> rfl

theorem hyphenated?_map_asciiLower (text : List Char) :
    hyphenated? (text.map asciiLower) = hyphenated? text := by
  rw [hyphenated?, hyphenated?, splitOn_map_asciiLower]
  rcases text.splitOn '-' with _ | ⟨a, _ | ⟨b, _ | ⟨c, _ | ⟨d, _ | ⟨e, _ | ⟨f, rest⟩⟩⟩⟩⟩⟩
  case cons.cons.cons.cons.cons.nil =>
    simp only [List.map_cons, List.map_nil, List.length_map, ← List.map_append,
      simple?_map_asciiLower]
  all_goals rfl

theorem withoutBrace?_append_singleton (text : List Char) (last : Char) :
    withoutBrace? (text ++ [last]) = if last = '\x7d' then some text else none := by
  rw [withoutBrace?, List.reverse_append, List.reverse_singleton, List.singleton_append]
  split
  · next same =>
      obtain ⟨rfl, rfl⟩ := List.cons.inj same
      rw [if_pos rfl, List.reverse_reverse]
  · next other =>
      rw [if_neg]
      rintro rfl
      exact other _ rfl

theorem withoutBrace?_map_asciiLower (text : List Char) :
    withoutBrace? (text.map asciiLower) = (withoutBrace? text).map (List.map asciiLower) := by
  induction text using List.reverseRecOn with
  | nil => rfl
  | append_singleton text last =>
      rw [List.map_append, List.map_singleton, withoutBrace?_append_singleton,
        withoutBrace?_append_singleton]
      have brace : asciiLower last = '\x7d' ↔ last = '\x7d' := asciiLower_eq_iff (.inr (by decide))
      simp only [brace]
      split <;> rfl

theorem asciiLower_asciiLower (c : Char) : asciiLower (asciiLower c) = asciiLower c := by
  rw [← Char.toNat_inj, toNat_asciiLower, toNat_asciiLower]
  by_cases upper : 65 ≤ c.toNat ∧ c.toNat ≤ 90
  · rw [if_pos upper, if_neg (by omega)]
  · rw [if_neg upper, if_neg upper]

theorem isResource_map_asciiLower (text : List Char) :
    isResource (text.map asciiLower) = isResource text := by
  have again : asciiLower ∘ asciiLower = asciiLower := funext asciiLower_asciiLower
  rw [isResource, isResource, ← List.map_take, List.map_map, again]

theorem read?_of_brace (rest : List Char) :
    read? ('\x7b' :: rest) = (withoutBrace? rest).bind hyphenated? := rfl

theorem read?_of_no_brace {text : List Char} (bare : ∀ rest, text ≠ '\x7b' :: rest) :
    read? text =
      if isResource text then hyphenated? (text.drop resourceMark.length)
      else if text.length = 32 then simple? text
      else hyphenated? text := by
  unfold read?
  split
  · next rest => exact absurd rfl (bare rest)
  · rfl

/-- An identifier is read from a text as from the text in lower case. -/
theorem read?_map_asciiLower (text : List Char) : read? (text.map asciiLower) = read? text := by
  by_cases braced : ∃ rest, text = '\x7b' :: rest
  · obtain ⟨rest, rfl⟩ := braced
    have brace : asciiLower '\x7b' = '\x7b' := (asciiLower_eq_iff (.inr (by decide))).mpr rfl
    rw [List.map_cons, brace, read?_of_brace, read?_of_brace, withoutBrace?_map_asciiLower]
    cases withoutBrace? rest with
    | none => rfl
    | some inside => exact hyphenated?_map_asciiLower inside
  · have bare : ∀ rest, text ≠ '\x7b' :: rest := fun rest same => braced ⟨rest, same⟩
    have bareToo : ∀ rest, text.map asciiLower ≠ '\x7b' :: rest := by
      intro rest same
      obtain ⟨first, others, rfl, lowered, -⟩ := List.map_eq_cons_iff.mp same
      exact bare others (congrArg (· :: others) ((asciiLower_eq_iff (.inr (by decide))).mp lowered))
    rw [read?_of_no_brace bare, read?_of_no_brace bareToo, isResource_map_asciiLower,
      List.length_map, ← List.map_drop, simple?_map_asciiLower, hyphenated?_map_asciiLower,
      hyphenated?_map_asciiLower]

/-! ## The forms in lower case -/

def digits (id : Uuid) : List Char :=
  padZeros 32 (hexDigits id.value)

/-- The forms that an identifier is read from, in lower case. -/
def forms (id : Uuid) : List (List Char) :=
  [id.write, id.digits, '\x7b' :: (id.write ++ ['\x7d']), resourceMark ++ id.write]

/-- What begins with a hexadecimal digit is neither in braces nor behind the mark of a resource. -/
theorem read?_of_digit {c : Char} (digit : (hexValue? c).isSome = true) (rest : List Char) :
    read? (c :: rest) =
      if (c :: rest).length = 32 then simple? (c :: rest) else hyphenated? (c :: rest) := by
  have unmarked : isResource (c :: rest) = false := by
    rw [isResource, decide_eq_false_iff_not]
    intro same
    have first : asciiLower c = 'u' := (List.cons.inj same).1
    rw [← hexValue?_asciiLower, first] at digit
    cases digit
  rw [read?_of_no_brace, unmarked]
  · rfl
  · rintro _ same
    obtain ⟨rfl, -⟩ := List.cons.inj same
    cases digit

theorem hexNumber?_digits (id : Uuid) : hexNumber? id.digits = some id.value := by
  rw [digits, hexNumber?_padZeros, hexNumber?_hexDigits]

theorem isSome_hexValue?_of_mem_digits {id : Uuid} {c : Char} (member : c ∈ id.digits) :
    (hexValue? c).isSome = true :=
  isSome_hexValue?_of_mem id.hexNumber?_digits c member

theorem isBlank_of_mem_digits {id : Uuid} {c : Char} (member : c ∈ id.digits) :
    isBlank c = false :=
  isBlank_of_isSome_hexValue? (isSome_hexValue?_of_mem_digits member)

def groups (id : Uuid) : List (List Char) :=
  [id.digits.take 8, (id.digits.drop 8).take 4, (id.digits.drop 12).take 4,
    (id.digits.drop 16).take 4, id.digits.drop 20]

theorem write_eq_intercalate (id : Uuid) : id.write = ['-'].intercalate id.groups := by
  simp [write, groups, digits, List.intercalate]

theorem mem_digits_of_mem_groups {id : Uuid} {group : List Char} (member : group ∈ id.groups)
    {c : Char} (inside : c ∈ group) : c ∈ id.digits := by
  simp only [groups, List.mem_cons, List.not_mem_nil, or_false] at member
  rcases member with rfl | rfl | rfl | rfl | rfl
  · exact List.mem_of_mem_take inside
  · exact List.mem_of_mem_drop (List.mem_of_mem_take inside)
  · exact List.mem_of_mem_drop (List.mem_of_mem_take inside)
  · exact List.mem_of_mem_drop (List.mem_of_mem_take inside)
  · exact List.mem_of_mem_drop inside

theorem splitOn_write (id : Uuid) : id.write.splitOn '-' = id.groups := by
  rw [write_eq_intercalate]
  apply List.splitOn_intercalate
  · intro group member inside
    have digit := isSome_hexValue?_of_mem_digits (mem_digits_of_mem_groups member inside)
    cases digit
  · exact List.cons_ne_nil _ _

theorem flatten_groups (id : Uuid) :
    id.digits.take 8 ++ (id.digits.drop 8).take 4 ++ (id.digits.drop 12).take 4 ++
      (id.digits.drop 16).take 4 ++ id.digits.drop 20 = id.digits := by
  have twelve : id.digits.take (8 + 4) = id.digits.take 8 ++ (id.digits.drop 8).take 4 :=
    List.take_add
  have sixteen : id.digits.take (12 + 4) = id.digits.take 12 ++ (id.digits.drop 12).take 4 :=
    List.take_add
  have twenty : id.digits.take (16 + 4) = id.digits.take 16 ++ (id.digits.drop 16).take 4 :=
    List.take_add
  rw [← twelve, ← sixteen, ← twenty, List.take_append_drop]

theorem isBlank_of_mem_write {id : Uuid} {c : Char} (inside : c ∈ id.write) :
    isBlank c = false := by
  rw [write, ← digits] at inside
  simp only [List.mem_append, List.mem_cons] at inside
  rcases inside with first | rfl | second | rfl | third | rfl | fourth | rfl | fifth
  · exact isBlank_of_mem_digits (List.mem_of_mem_take first)
  · rfl
  · exact isBlank_of_mem_digits (List.mem_of_mem_drop (List.mem_of_mem_take second))
  · rfl
  · exact isBlank_of_mem_digits (List.mem_of_mem_drop (List.mem_of_mem_take third))
  · rfl
  · exact isBlank_of_mem_digits (List.mem_of_mem_drop (List.mem_of_mem_take fourth))
  · rfl
  · exact isBlank_of_mem_digits (List.mem_of_mem_drop fifth)

theorem isBlank_of_mem_forms {id : Uuid} {form : List Char} (member : form ∈ id.forms) {c : Char}
    (inside : c ∈ form) : isBlank c = false := by
  simp only [forms, List.mem_cons, List.not_mem_nil, or_false] at member
  rcases member with rfl | rfl | rfl | rfl
  · exact isBlank_of_mem_write inside
  · exact isBlank_of_mem_digits inside
  · simp only [List.mem_cons, List.mem_append, List.not_mem_nil, or_false] at inside
    rcases inside with rfl | body | rfl
    · rfl
    · exact isBlank_of_mem_write body
    · rfl
  · rcases List.mem_append.mp inside with mark | body
    · exact isBlank_of_mem_of_all rfl mark
    · exact isBlank_of_mem_write body

section Bounded

variable {id : Uuid} (bounded : id.value < 16 ^ 32)

include bounded

theorem length_digits : id.digits.length = 32 :=
  length_padZeros ((length_hexDigits_le_iff (by decide)).mpr bounded)

theorem simple?_digits : simple? id.digits = some id := by
  rw [simple?, if_pos (length_digits bounded), hexNumber?_digits]
  rfl

theorem hyphenated?_write : hyphenated? id.write = some id := by
  have length := length_digits bounded
  rw [hyphenated?, splitOn_write, groups]
  simp only [List.length_take, List.length_drop, length, flatten_groups, simple?_digits bounded]
  rfl

theorem length_write : id.write.length = 36 := by
  have length := length_digits bounded
  rw [write, ← digits]
  simp only [List.length_append, List.length_cons, List.length_take, List.length_drop, length]
  rfl

theorem read?_write : read? id.write = some id := by
  have length := length_digits bounded
  cases front : id.digits.take 8 with
  | nil =>
      have missing := congrArg List.length front
      rw [List.length_take, length] at missing
      cases missing
  | cons c rest =>
      have first : c ∈ id.digits := by
        apply List.mem_of_mem_take
        rw [front]
        exact List.mem_cons_self
      have shape : ∃ others, id.write = c :: others := by
        rw [write, ← digits, front]
        exact ⟨_, rfl⟩
      obtain ⟨others, shape⟩ := shape
      rw [shape, read?_of_digit (isSome_hexValue?_of_mem_digits first), ← shape,
        length_write bounded, hyphenated?_write bounded]
      rfl

theorem read?_digits : read? id.digits = some id := by
  have length := length_digits bounded
  cases shape : id.digits with
  | nil =>
      rw [shape] at length
      cases length
  | cons c rest =>
      have first : c ∈ id.digits := by
        rw [shape]
        exact List.mem_cons_self
      rw [read?_of_digit (isSome_hexValue?_of_mem_digits first), ← shape, if_pos length,
        simple?_digits bounded]

theorem read?_of_mem_forms {form : List Char} (member : form ∈ id.forms) :
    read? form = some id := by
  simp only [forms, List.mem_cons, List.not_mem_nil, or_false] at member
  rcases member with rfl | rfl | rfl | rfl
  · exact read?_write bounded
  · exact read?_digits bounded
  · rw [read?_of_brace, withoutBrace?_append_singleton, if_pos rfl]
    exact hyphenated?_write bounded
  · have marked : isResource (resourceMark ++ id.write) = true := by
      rw [isResource, List.take_left]
      rfl
    rw [read?_of_no_brace, marked, if_pos rfl, List.drop_left]
    · exact hyphenated?_write bounded
    · intro rest same
      cases same

end Bounded

end RecordRules.Uuid
