import RecordRules.Proofs.Text.Digits
import RecordRules.Text.Quoted

/-!
# Quoted texts are told apart

Every character has its own form inside quotes, and the forms can be taken off the front of a
text one after another: none of them starts as the closing quote does, a backslash starts an
escape, and an escape by a number ends with its brace.  So a quoted text stands for one text
only, and nothing that is literally in a text looks like an escape.
-/

namespace RecordRules.Text

/-- What a letter behind a backslash stands for. -/
def namedEscape? (letter : Char) : Option Char :=
  if letter = '"' || letter = '\\' then some letter
  else if letter = 'n' then some '\n'
  else if letter = 'r' then some '\r'
  else if letter = 't' then some '\t'
  else if letter = '0' then some (Char.ofNat 0)
  else none

/-- The character that the inside of a quoted text starts with, and what follows its form. -/
def firstQuoted? : List Char → Option (Char × List Char)
  | [] => none
  | '"' :: _ => none
  | '\\' :: 'u' :: '\x7b' :: rest =>
      (hexNumber? (rest.takeWhile (· ≠ '\x7d'))).map fun code =>
        (Char.ofNat code, (rest.dropWhile (· ≠ '\x7d')).tail)
  | '\\' :: letter :: rest => (namedEscape? letter).map (·, rest)
  | '\\' :: [] => none
  | c :: rest => some (c, rest)

/-- The forms of a character inside quotes. -/
inductive QuotedAs (c : Char) : List Char → Prop where
  | named {letter : Char} (means : namedEscape? letter = some c) : QuotedAs c ['\\', letter]
  | numbered : QuotedAs c ('\\' :: 'u' :: '\x7b' :: (hexDigits c.toNat ++ ['\x7d']))
  | plain (notQuote : c ≠ '"') (notBackslash : c ≠ '\\') : QuotedAs c [c]

theorem quotedAs_quoteOne (c : Char) : QuotedAs c (quoteOne c) := by
  unfold quoteOne
  simp only [beq_iff_eq]
  split_ifs with quote backslash newLine returned tab null printable
  · exact .named (by rw [quote]; rfl)
  · exact .named (by rw [backslash]; rfl)
  · exact .named (by rw [newLine]; rfl)
  · exact .named (by rw [returned]; rfl)
  · exact .named (by rw [tab]; rfl)
  · exact .named (by rw [← Char.ofNat_toNat c, null]; rfl)
  · exact .plain quote backslash
  · exact .numbered

theorem brace_not_mem_hexDigits (n : Nat) : ∀ c ∈ hexDigits n, c ≠ '\x7d' := by
  rintro c member rfl
  cases isSome_hexValue?_of_mem (hexNumber?_hexDigits n) _ member

theorem firstQuoted?_numbered (n : Nat) (rest : List Char) :
    firstQuoted? ('\\' :: 'u' :: '\x7b' :: (hexDigits n ++ '\x7d' :: rest)) =
      some (Char.ofNat n, rest) := by
  have digits : ∀ c ∈ hexDigits n, decide (c ≠ '\x7d') = true := by
    simpa using brace_not_mem_hexDigits n
  rw [firstQuoted?, List.takeWhile_append_of_pos digits, List.dropWhile_append_of_pos digits]
  simp [hexNumber?_hexDigits]

/-- Whatever follows it, the form of a character is seen to be that of the character. -/
theorem firstQuoted?_quoteOne (c : Char) (rest : List Char) :
    firstQuoted? (quoteOne c ++ rest) = some (c, rest) := by
  have shown := quotedAs_quoteOne c
  generalize quoteOne c = form at shown ⊢
  cases shown with
  | @named letter means =>
      have notU : letter ≠ 'u' := by
        rintro rfl
        cases means
      simp [firstQuoted?, notU, means]
  | numbered =>
      have first := firstQuoted?_numbered c.toNat rest
      rw [Char.ofNat_toNat] at first
      simpa using first
  | plain notQuote notBackslash => simp [firstQuoted?, notBackslash]

/-- The inside of a quoted text, up to its closing quote, stands for one text only. -/
theorem flatMap_quoteOne_inj {text other rest others : List Char}
    (same : text.flatMap quoteOne ++ '"' :: rest = other.flatMap quoteOne ++ '"' :: others) :
    text = other ∧ rest = others := by
  -- Both sides start with one character's form or with the quote, which is seen to be neither.
  have ends : ∀ (c : Char) (front rest others : List Char),
      quoteOne c ++ front.flatMap quoteOne ++ '"' :: rest ≠ '"' :: others := by
    intro c front rest others same
    have first := congrArg firstQuoted? same
    rw [List.append_assoc, firstQuoted?_quoteOne] at first
    cases first
  induction text generalizing other with
  | nil =>
      cases other with
      | nil => exact ⟨rfl, (List.cons.inj same).2⟩
      | cons d other => exact absurd same.symm (ends d other others rest)
  | cons c text ih =>
      cases other with
      | nil => exact absurd same (ends c text rest others)
      | cons d other =>
          have first := congrArg firstQuoted? same
          rw [List.flatMap_cons, List.flatMap_cons, List.append_assoc, List.append_assoc,
            firstQuoted?_quoteOne, firstQuoted?_quoteOne] at first
          obtain ⟨rfl, behind⟩ := Prod.mk.inj (Option.some.inj first)
          obtain ⟨rfl, rest⟩ := ih behind
          exact ⟨rfl, rest⟩

theorem quoted_injective : Function.Injective quoted := by
  intro text other same
  exact (flatMap_quoteOne_inj (List.cons.inj same).2).1

end RecordRules.Text
