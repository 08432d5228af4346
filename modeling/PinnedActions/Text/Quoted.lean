import PinnedActions.Text.Invisible
import PinnedActions.Text.Numeral

/-!
# Quoted texts in messages

When a message shows a value that was found in place of another, a text is shown in double quotes.
Quotes and backslashes are written after a backslash, a tab, a line feed, a carriage return and the
null character have letters of their own, and every other invisible character is shown by its number
in base sixteen.
-/

set_option autoImplicit false

namespace PinnedActions

namespace Text

/-- How one character stands inside quotes. -/
def quoteChar (c : Char) : Text :=
  if c = '"' then ['\\', '"']
  else if c = '\\' then ['\\', '\\']
  else if c = '\t' then ['\\', 't']
  else if c = '\n' then ['\\', 'n']
  else if c = '\r' then ['\\', 'r']
  else if c.toNat = 0 then ['\\', '0']
  else if isInvisible c then ['\\', 'u', '{'] ++ hexadecimal c.toNat ++ ['}']
  else [c]

/-- A text in double quotes. -/
def quoted (t : Text) : Text := between '"' (t.flatMap quoteChar)

end Text

end PinnedActions
