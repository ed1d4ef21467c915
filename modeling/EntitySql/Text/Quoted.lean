import EntitySql.Text.Concealed
import EntitySql.Text.Digit
/-!
# Quoted text

The quoted form of a text shows every character of it: the double quote and the backslash are
escaped, the usual control characters have letters, and a character that does not show on its
own is written by its code point, `\u{301}`.

## Main definitions

* `quotedChar`: the quoted form of one character.
* `quoted`: the quoted form of a text, with its quotes.
-/

namespace EntitySql.Text

/-- The quoted form of one character. The single quote stands for itself. -/
def quotedChar (c : Char) : List Char :=
  if c = '\x00' then ['\\', '0']
  else if c = '\t' then ['\\', 't']
  else if c = '\n' then ['\\', 'n']
  else if c = '\r' then ['\\', 'r']
  else if c = '"' then ['\\', '"']
  else if c = '\\' then ['\\', '\\']
  else if 0x20 ≤ c.toNat && c.toNat < 0x7F then [c]
  else if isConcealed c then
    ['\\', 'u', '\x7b'] ++ hexNumeral .lower c.toNat ++ ['\x7d']
  else [c]

/-- The quoted form of a text, between double quotes. -/
def quoted (s : String) : String :=
  "\"" ++ String.ofList (s.toList.flatMap quotedChar) ++ "\""

end EntitySql.Text
