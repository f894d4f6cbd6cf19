import Mathlib.Data.List.Basic
import RecordRules.Settings.Toml.Reader

/-!
# What readers of TOML leave

A reader takes something from the front of a text and leaves the text behind it.  What it
leaves is a suffix of what it was given, so that the lines of a text get used up one after
another.
-/

namespace RecordRules.Toml

open Text

/-- A reader that leaves a suffix of the text it is given. -/
def Leaves {α : Type} (reader : Front α) : Prop :=
  ∀ ⦃text found rest⦄, reader text = some (found, rest) → rest <:+ text

theorem rest_of_map {α β : Type} {make : α → β} {read : Option α} {left : List Char} {found : β}
    {rest : List Char} (same : read.map (fun value => (make value, left)) = some (found, rest)) :
    left = rest := by
  obtain ⟨value, -, same⟩ := Option.map_eq_some_iff.mp same
  exact (Prod.mk.inj same).2

/-! ## Lines -/

theorem eq_cons_of_mark {expected : Char} {text rest : List Char}
    (marked : mark expected text = some rest) : text = expected :: rest := by
  cases text with
  | nil => cases marked
  | cons c remaining =>
      rw [mark] at marked
      split at marked
      · next same => rw [same, Option.some.inj marked]
      · cases marked

theorem skipLineBlanks_suffix (text : List Char) : skipLineBlanks text <:+ text :=
  List.dropWhile_suffix _

theorem lineBreak?_length {text rest : List Char} (broken : lineBreak? text = some rest) :
    rest <:+ text ∧ rest.length < text.length := by
  unfold lineBreak? at broken
  split at broken
  · obtain rfl := Option.some.inj broken
    exact ⟨List.suffix_cons _ _, Nat.lt_succ_self _⟩
  · obtain rfl := Option.some.inj broken
    exact ⟨(List.suffix_cons _ _).trans (List.suffix_cons _ _),
      Nat.lt_succ_of_lt (Nat.lt_succ_self _)⟩
  · cases broken

theorem skipComment_suffix (text : List Char) : skipComment text <:+ text := by
  unfold skipComment
  split
  · exact (List.dropWhile_suffix _).trans (List.suffix_cons _ _)
  · exact List.suffix_refl text

theorem endOfLine?_suffix {text rest : List Char} (ended : endOfLine? text = some rest) :
    rest <:+ text ∧ (rest ≠ [] → rest.length < text.length) := by
  have inner : skipComment (skipLineBlanks text) <:+ text :=
    (skipComment_suffix _).trans (skipLineBlanks_suffix text)
  unfold endOfLine? at ended
  split at ended
  · obtain rfl := Option.some.inj ended
    exact ⟨List.nil_suffix, fun left => absurd rfl left⟩
  · obtain ⟨behind, shorter⟩ := lineBreak?_length ended
    exact ⟨behind.trans inner, fun _ => Nat.lt_of_lt_of_le shorter inner.length_le⟩

theorem skipFill_suffix (steps : Nat) (text : List Char) : skipFill steps text <:+ text := by
  induction steps generalizing text with
  | zero => exact List.suffix_refl text
  | succ steps ih =>
      have inner : skipComment (skipLineBlanks text) <:+ text :=
        (skipComment_suffix _).trans (skipLineBlanks_suffix text)
      rw [skipFill]
      split
      · next rest broken => exact ((ih rest).trans (lineBreak?_length broken).1).trans inner
      · exact inner

/-! ## Texts in quotes -/

theorem leaves_escape : Leaves escape := by
  intro text found rest escaped
  cases text with
  | nil => cases escaped
  | cons c remaining =>
      simp only [escape] at escaped
      split at escaped
      · obtain rfl := rest_of_map escaped
        exact List.suffix_cons _ _
      · split at escaped
        · obtain rfl := rest_of_map escaped
          exact (List.drop_suffix _ _).trans (List.suffix_cons _ _)
        · cases escaped

namespace Quotes

theorem skipBreaks_suffix (text : List Char) : skipBreaks text <:+ text := by
  fun_induction skipBreaks text with
  | case1 rest ih => exact (ih.trans (List.suffix_cons _ _)).trans (List.suffix_cons _ _)
  | case2 rest ih => exact ih.trans (List.suffix_cons _ _)
  | case3 c rest _ _ blank ih => exact ih.trans (List.suffix_cons _ _)
  | case4 c rest _ _ solid => exact List.suffix_refl _
  | case5 => exact List.suffix_refl _

theorem joined?_suffix {quotes : Quotes} {text rest : List Char}
    (joined : quotes.joined? text = some rest) : rest <:+ text := by
  unfold joined? at joined
  split at joined
  · obtain ⟨broken, found, rfl⟩ := Option.map_eq_some_iff.mp joined
    exact ((skipBreaks_suffix _).trans (lineBreak?_length found).1).trans
      (skipLineBlanks_suffix text)
  · cases joined

theorem leaves_close? (quotes : Quotes) : Leaves quotes.close? := by
  intro text found rest closed
  simp only [close?] at closed
  split at closed
  · split at closed
    · cases closed
    · obtain ⟨-, rfl⟩ := Prod.mk.inj (Option.some.inj closed)
      exact List.drop_suffix _ _
  · split at closed
    · cases closed
    · obtain ⟨-, rfl⟩ := Prod.mk.inj (Option.some.inj closed)
      exact List.drop_suffix _ _

theorem leaves_inside (quotes : Quotes) (steps : Nat) : Leaves (quotes.inside steps) := by
  induction steps with
  | zero =>
      intro text found rest closed
      cases closed
  | succ steps ih =>
      intro text found rest closed
      rw [inside.eq_def] at closed
      simp only at closed
      split at closed
      · next ended =>
          obtain rfl := Option.some.inj closed
          exact quotes.leaves_close? ended
      · cases closed
      · next c remaining _ =>
          split at closed
          · split at closed
            · next joined =>
                exact ((ih closed).trans (joined?_suffix joined)).trans (List.suffix_cons _ _)
            · simp only [Option.bind_eq_bind, Option.bind_eq_some_iff] at closed
              obtain ⟨⟨escaped, behind⟩, escapes, ⟨later, left⟩, more, same⟩ := closed
              obtain ⟨-, rfl⟩ := Prod.mk.inj (Option.some.inj same)
              exact ((ih more).trans (leaves_escape escapes)).trans (List.suffix_cons _ _)
          · split at closed
            · simp only [Option.bind_eq_bind, Option.bind_eq_some_iff] at closed
              obtain ⟨⟨later, left⟩, more, same⟩ := closed
              obtain ⟨-, rfl⟩ := Prod.mk.inj (Option.some.inj same)
              exact (ih more).trans (List.suffix_cons _ _)
            · cases closed

end Quotes

theorem leaves_lineText : Leaves lineText := by
  intro text found rest quoted
  cases text with
  | nil => cases quoted
  | cons c remaining =>
      rw [lineText] at quoted
      split at quoted
      · obtain ⟨⟨inner, left⟩, closed, same⟩ := Option.map_eq_some_iff.mp quoted
        obtain ⟨-, rfl⟩ := Prod.mk.inj same
        exact (Quotes.leaves_inside _ _ closed).trans (List.suffix_cons _ _)
      · cases quoted

theorem leaves_quotedText : Leaves quotedText := by
  intro text found rest quoted
  unfold quotedText at quoted
  split at quoted
  · next a b c remaining =>
      split at quoted
      · obtain ⟨⟨inner, left⟩, closed, same⟩ := Option.map_eq_some_iff.mp quoted
        obtain ⟨-, rfl⟩ := Prod.mk.inj same
        have first : (lineBreak? remaining).getD remaining <:+ remaining := by
          cases broken : lineBreak? remaining with
          | none => exact List.suffix_refl remaining
          | some behind => exact (lineBreak?_length broken).1
        have opened : remaining <:+ a :: b :: c :: remaining := ⟨[a, b, c], rfl⟩
        exact ((Quotes.leaves_inside _ _ closed).trans first).trans opened
      · exact leaves_lineText quoted
  · exact leaves_lineText quoted

/-! ## Keys and values -/

theorem leaves_keyPart : Leaves keyPart := by
  intro text found rest part
  simp only [keyPart] at part
  split at part
  · exact leaves_lineText part
  · obtain ⟨-, rfl⟩ := Prod.mk.inj (Option.some.inj part)
    exact List.drop_suffix _ _

theorem leaves_keyPath (steps : Nat) : Leaves (keyPath steps) := by
  induction steps with
  | zero =>
      intro text found rest path
      cases path
  | succ steps ih =>
      intro text found rest path
      simp only [keyPath, Option.bind_eq_bind, Option.bind_eq_some_iff] at path
      obtain ⟨⟨first, behind⟩, part, path⟩ := path
      have inner : skipLineBlanks behind <:+ text :=
        ((skipLineBlanks_suffix behind).trans (leaves_keyPart part)).trans
          (skipLineBlanks_suffix text)
      split at path
      · next remaining dotted =>
          simp only [Option.bind_eq_some_iff] at path
          obtain ⟨⟨later, left⟩, more, same⟩ := path
          obtain ⟨-, rfl⟩ := Prod.mk.inj (Option.some.inj same)
          rw [dotted] at inner
          exact ((ih more).trans (List.suffix_cons _ _)).trans inner
      · obtain ⟨-, rfl⟩ := Prod.mk.inj (Option.some.inj path)
        exact inner

theorem leaves_bareFront : Leaves bareFront := by
  intro text found rest bare
  have token : text.drop (text.takeWhile isBare).length <:+ text := List.drop_suffix _ _
  simp only [bareFront] at bare
  split at bare
  · next spaced =>
      obtain rfl := Option.some.inj bare
      unfold spacedMoment? at spaced
      split at spaced
      · next remaining blank =>
          obtain rfl := rest_of_map spaced
          rw [blank] at token
          exact ((List.drop_suffix _ _).trans (List.suffix_cons _ _)).trans token
      · cases spaced
  · obtain rfl := rest_of_map bare
    exact token

section Values

variable {steps : Nat}

theorem leaves_value_succ (ofList : ∀ room, Leaves (listInside room steps))
    (ofTable : ∀ room members, Leaves (tableInside room steps members)) (room : Nat) :
    Leaves (value room (steps + 1)) := by
  intro text found rest read
  unfold value at read
  split at read
  · split at read
    · cases read
    · exact (ofList _ read).trans (List.suffix_cons _ _)
  · split at read
    · cases read
    · exact (ofTable _ _ read).trans (List.suffix_cons _ _)
  · split at read
    · next quoted =>
        obtain ⟨-, rfl⟩ := Prod.mk.inj (Option.some.inj read)
        exact leaves_quotedText quoted
    · exact leaves_bareFront read

theorem leaves_listInside_succ (ofValue : ∀ room, Leaves (value room steps))
    (ofList : ∀ room, Leaves (listInside room steps)) (room : Nat) :
    Leaves (listInside room (steps + 1)) := by
  intro text found rest read
  have filled := skipFill_suffix (text.length + 1) text
  rw [listInside] at read
  split at read
  · next remaining closed =>
      obtain ⟨-, rfl⟩ := Prod.mk.inj (Option.some.inj read)
      rw [closed] at filled
      exact (List.suffix_cons _ _).trans filled
  · simp only [Option.bind_eq_bind, Option.bind_eq_some_iff] at read
    obtain ⟨⟨element, behind⟩, inner, read⟩ := read
    have left : skipFill (behind.length + 1) behind <:+ text :=
      ((skipFill_suffix _ behind).trans (ofValue _ inner)).trans filled
    split at read
    · next remaining closed =>
        obtain ⟨-, rfl⟩ := Prod.mk.inj (Option.some.inj read)
        rw [closed] at left
        exact (List.suffix_cons _ _).trans left
    · next remaining more =>
        rw [more] at left
        exact ((ofList _ read).trans (List.suffix_cons _ _)).trans left
    · cases read

theorem leaves_tableInside_succ (ofValue : ∀ room, Leaves (value room steps))
    (ofTable : ∀ room members, Leaves (tableInside room steps members)) (room : Nat)
    (members : Members) : Leaves (tableInside room (steps + 1) members) := by
  intro text found rest read
  have filled := skipFill_suffix (text.length + 1) text
  rw [tableInside] at read
  split at read
  · next remaining closed =>
      obtain ⟨-, rfl⟩ := Prod.mk.inj (Option.some.inj read)
      rw [closed] at filled
      exact (List.suffix_cons _ _).trans filled
  · simp only [Option.bind_eq_bind, Option.bind_eq_some_iff] at read
    obtain ⟨⟨path, behind⟩, named, equated, marked, ⟨setting, after⟩, inner, added, -, read⟩ := read
    have behind_suffix : behind <:+ text := (leaves_keyPath _ named).trans filled
    have marked_eq : behind = '=' :: equated := eq_cons_of_mark marked
    have equated_suffix : equated <:+ text := by
      rw [marked_eq] at behind_suffix
      exact (List.suffix_cons _ _).trans behind_suffix
    have after_suffix : after <:+ text :=
      ((ofValue _ inner).trans (skipLineBlanks_suffix equated)).trans equated_suffix
    have left : skipFill (after.length + 1) after <:+ text :=
      (skipFill_suffix _ after).trans after_suffix
    split at read
    · next remaining closed =>
        obtain ⟨-, rfl⟩ := Prod.mk.inj (Option.some.inj read)
        rw [closed] at left
        exact (List.suffix_cons _ _).trans left
    · next remaining more =>
        rw [more] at left
        exact ((ofTable _ _ read).trans (List.suffix_cons _ _)).trans left
    · cases read

end Values

/-- Values, and what stands inside lists and inline tables, leave a suffix of the text. -/
theorem leaves_values (steps : Nat) :
    (∀ room, Leaves (value room steps)) ∧ (∀ room, Leaves (listInside room steps)) ∧
      ∀ room members, Leaves (tableInside room steps members) := by
  -- The three readers call each other with one step less, so they are taken together.
  induction steps with
  | zero =>
      refine ⟨?_, ?_, ?_⟩
      · intro room text found rest read
        simp [value] at read
      · intro room text found rest read
        simp [listInside] at read
      · intro room members text found rest read
        simp [tableInside] at read
  | succ steps ih =>
      obtain ⟨ofValue, ofList, ofTable⟩ := ih
      refine ⟨?_, ?_, ?_⟩
      · exact leaves_value_succ ofList ofTable
      · exact leaves_listInside_succ ofValue ofList
      · exact leaves_tableInside_succ ofValue ofTable

/-- A line of a key and a value leaves less than the text. -/
theorem keyLine_length {text rest : List Char} {line : List String × Setting}
    (read : keyLine text = some (line, rest)) : rest.length < text.length := by
  simp only [keyLine, Option.bind_eq_bind, Option.bind_eq_some_iff] at read
  obtain ⟨⟨path, behind⟩, named, equated, marked, ⟨setting, left⟩, valued, ended, atEnd, same⟩ :=
    read
  obtain ⟨-, rfl⟩ := Prod.mk.inj (Option.some.inj same)
  have named_le : behind.length ≤ text.length := (leaves_keyPath _ named).length_le
  have marked_eq : behind = '=' :: equated := eq_cons_of_mark marked
  have valued_le : left.length ≤ equated.length :=
    (((leaves_values _).1 _ valued).trans (skipLineBlanks_suffix equated)).length_le
  have ended_le : ended.length ≤ left.length := (endOfLine?_suffix atEnd).1.length_le
  rw [marked_eq, List.length_cons] at named_le
  omega

end RecordRules.Toml
