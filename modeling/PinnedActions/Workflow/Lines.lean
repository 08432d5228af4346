import PinnedActions.Text.Basic

/-!
# The lines of a file

A file is edited line by line.  `Lines.ofContent` splits a content at its line feeds, after turning
every carriage return that stands before a line feed into nothing; `Lines.content` joins the lines
again and ends the file with a line feed.  The flag `dirty` records whether some line was given
another text since, so that a file without a change is never written.
-/

set_option autoImplicit false

namespace PinnedActions

/-- The lines of a file, and whether one of them was changed. -/
structure Lines where
  texts : List Text
  dirty : Bool
deriving DecidableEq, Repr

namespace Lines

/-- The content with each carriage return in front of a line feed removed. -/
def unifyBreaks : Text → Text
  | '\r' :: '\n' :: rest => '\n' :: unifyBreaks rest
  | c :: rest => c :: unifyBreaks rest
  | [] => []

/-- The lines of a content, not changed yet. -/
def ofContent (content : Text) : Lines := ⟨(unifyBreaks content).splitOn '\n', false⟩

/-- The text of a line. -/
def line? (ls : Lines) (i : Nat) : Option Text := ls.texts[i]?

/-- The lines with another text at one position.  Nothing happens at a position past the end, or
when the text is there already. -/
def setLine (ls : Lines) (i : Nat) (text : Text) : Lines :=
  match ls.line? i with
  | none => ls
  | some old => if old = text then ls else ⟨ls.texts.set i text, true⟩

/-- The text with a line feed at its end. -/
def endLine (t : Text) : Text := if t.getLast? = some '\n' then t else t ++ ['\n']

/-- The content of a file with these lines. -/
def content (ls : Lines) : Text := endLine (Text.join ['\n'] ls.texts)

end Lines

end PinnedActions
