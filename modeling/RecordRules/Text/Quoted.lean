import RecordRules.Text.Casing
import RecordRules.Text.Digits
import RecordRules.Text.PrintableTable

/-!
# Quoted texts

The form in which a text is shown inside a message: in double quotes, with the quote
and the backslash escaped, five control characters by name, and every character that
would not be visible on its own by its number.
-/

namespace RecordRules.Text

/-- Characters that combine with the one before them. -/
def extendsGrapheme (c : Char) : Bool :=
  if c.toNat < 0x80 then false else inTable c.toNat graphemeExtend

/-- Characters that are shown as themselves. -/
def isPrintable (c : Char) : Bool :=
  if c.toNat < 0x80 then 0x20 ≤ c.toNat && c.toNat < 0x7F
  else
    !(inTable c.toNat nonPrintable || extendsGrapheme c)

def quoteOne (c : Char) : List Char :=
  if c == '"' then ['\\', '"']
  else if c == '\\' then ['\\', '\\']
  else if c == '\n' then ['\\', 'n']
  else if c == '\r' then ['\\', 'r']
  else if c == '\t' then ['\\', 't']
  else if c.toNat == 0 then ['\\', '0']
  else if isPrintable c then [c]
  else '\\' :: 'u' :: '\x7b' :: (hexDigits c.toNat ++ ['\x7d'])

def quoted (text : List Char) : List Char :=
  '"' :: (text.flatMap quoteOne ++ ['"'])

def quote (text : String) : String :=
  String.ofList (quoted text.toList)

end RecordRules.Text
