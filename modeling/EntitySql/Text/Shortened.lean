import EntitySql.Text.Blank
/-!
# Shortened text

Messages quote a command, and a long one is cut. The cut keeps whole characters and leaves no
blank at the end, and a line end closes the text in both cases.

## Main definitions

* `shortened`: the text as a message quotes it.
-/

namespace EntitySql.Text

/-- The number of characters that a message quotes at most. -/
def quotedLength : Nat := 497

/-- A text as a message quotes it: cut behind `quotedLength` characters, where three dots show
the cut, without blanks at the end, and closed by a line end. -/
def shortened (s : String) : String :=
  let chars := s.toList
  let kept := String.ofList (trimRight isBlank (chars.take quotedLength))
  if quotedLength < chars.length then kept ++ "...\n" else kept ++ "\n"

end EntitySql.Text
