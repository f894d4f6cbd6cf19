import RecordRules.Proofs.Settings.Remainders
import RecordRules.Settings.Source

/-!
# Files of flat lines

A file of settings may be as plain as lines of a key and a scalar value, with blank lines
and comments between them and every key once.  Such a file is read as its lines are: each
gives its key and its value, in the order of the lines.
-/

namespace RecordRules

/-- Settings that are neither lists nor tables. -/
def Setting.isScalar : Setting → Bool
  | .composite => false
  | .emptyTable => false
  | _ => true

namespace Toml

open Text

/-- Lines of one key and a scalar value each, every key once, and lines without content. -/
inductive FlatLines : List Char → List (String × Setting) → Prop where
  | done {text : List Char} (ended : endOfLine? text = some []) : FlatLines text []
  | passed {text rest : List Char} {entries : List (String × Setting)}
      (ended : endOfLine? text = some rest) (more : rest ≠ []) (below : FlatLines rest entries) :
      FlatLines text entries
  | entry {text rest : List Char} {key : String} {setting : Setting}
      {entries : List (String × Setting)} (filled : endOfLine? text = none)
      (read : keyLine (skipLineBlanks text) = some (([key], setting), rest))
      (scalar : setting.isScalar = true) (new : key ∉ entries.map (·.1))
      (below : FlatLines rest entries) :
      FlatLines text ((key, setting) :: entries)

namespace FlatLines

variable {text : List Char} {entries : List (String × Setting)}

theorem isScalar_of_mem (flat : FlatLines text entries) {entry : String × Setting}
    (member : entry ∈ entries) : entry.2.isScalar = true := by
  induction flat with
  | done ended => cases member
  | passed ended more below ih => exact ih member
  | entry filled read scalar new below ih =>
      rcases List.mem_cons.mp member with rfl | member
      · exact scalar
      · exact ih member

end FlatLines

theorem keyLine_bracket (rest : List Char) : keyLine ('[' :: rest) = none := by
  have noKeyChar : isKeyChar '[' = false := by decide
  have noQuote : '[' ≠ singleQuote := by decide
  have noKey : keyPart ('[' :: rest) = none := by
    simp [keyPart, noKeyChar, lineText, noQuote]
  simp [keyLine, keyPath, skipLineBlanks, isLineBlank, noKey]

namespace Members

theorem put_of_new {members : Members} {key : String} (new : members.node? key = none)
    (node : Node) : members.put key node = members ++ [(key, node)] := by
  induction members with
  | nil => rfl
  | cons first rest ih =>
      obtain ⟨other, held⟩ := first
      by_cases same : other = key
      · simp [node?, same] at new
      · have new_rest : Members.node? rest key = none := by simpa [node?, same] using new
        simp [put, same, ih new_rest]

theorem add?_single_of_new {members : Members} {key : String} (new : members.node? key = none)
    (setting : Setting) :
    members.changeUnder [] (·.add? [key] setting) = some (members ++ [(key, .value setting)]) := by
  rw [← put_of_new new]
  simp [changeUnder, changeAt, add?, new]

theorem node?_append_of_ne {members : Members} {key other : String}
    (new : members.node? other = none) (different : key ≠ other) (node : Node) :
    Members.node? (members ++ [(key, node)]) other = none := by
  simp only [node?, Option.map_eq_none_iff] at new ⊢
  simp [List.find?_append, new, different]

end Members

/-- Flat lines add their keys to a table that has none of them. -/
theorem lines_of_flat {text : List Char} {entries : List (String × Setting)}
    (flat : FlatLines text entries) {steps : Nat} (enough : text.length < steps)
    {members : Members} (new : ∀ entry ∈ entries, members.node? entry.1 = none) :
    lines steps [] members text =
      some (members ++ entries.map fun entry => (entry.1, .value entry.2)) := by
  induction flat generalizing steps members with
  | @done text ended =>
      cases steps with
      | zero => omega
      | succ steps => simp [lines, ended]
  | @passed text rest entries ended more below ih =>
      cases steps with
      | zero => omega
      | succ steps =>
          have shorter := (endOfLine?_suffix ended).2 more
          cases rest with
          | nil => exact absurd rfl more
          | cons c rest =>
              simp only [lines, ended]
              exact ih (by omega) new
  | @entry text rest key setting entries filled read scalar unused below ih =>
      cases steps with
      | zero => omega
      | succ steps =>
          have shorter : rest.length < text.length :=
            Nat.lt_of_lt_of_le (keyLine_length read) (skipLineBlanks_suffix text).length_le
          have newKey : members.node? key = none := new (key, setting) List.mem_cons_self
          have newRest : ∀ entry ∈ entries,
              Members.node? (members ++ [(key, .value setting)]) entry.1 = none := by
            intro entry member
            have different : key ≠ entry.1 := fun same =>
              unused (same ▸ List.mem_map_of_mem member)
            exact Members.node?_append_of_ne (new entry (List.mem_cons_of_mem _ member))
              different _
          have rested := ih (Nat.lt_of_lt_of_le shorter (Nat.le_of_lt_succ enough)) newRest
          rw [lines, filled]
          simp only
          split
          · next inner bracket =>
              rw [bracket, keyLine_bracket] at read
              cases read
          · next inner bracket =>
              rw [bracket, keyLine_bracket] at read
              cases read
          · simp only [read, Option.bind_eq_bind, Option.bind_some,
              Members.add?_single_of_new newKey, rested, List.map_cons, List.append_assoc,
              List.singleton_append]

theorem read?_of_flat {text : List Char} {entries : List (String × Setting)}
    (flat : FlatLines text entries) : read? text = some entries := by
  have enough : text.length < text.length + 2 := by omega
  have tables : lines (text.length + 2) [] [] text =
      some ([] ++ entries.map fun entry => (entry.1, .value entry.2)) :=
    lines_of_flat flat enough fun entry _ => rfl
  rw [read?, tables, List.nil_append, Option.map_some, List.map_map]
  exact congrArg some (List.map_id entries)

end Toml

end RecordRules
