import PinnedActions.Yaml.Cursor

/-!
# Scalars

A scalar is written in one of three styles: **plain**, **quoted** with single or double quotes, or as
a **block** whose lines are kept or folded.  Each reader takes the cursor at the start of a scalar
and gives its text and the cursor after it.

In all styles but the literal block a line break between two words becomes a space, and of several
line breaks in a row all but the first are kept: that is what `fold` says.
-/

set_option autoImplicit false

namespace PinnedActions

namespace Yaml

/-- How a scalar is written. -/
inductive Style where
  | plain
  | quoted
  | literal
  | folded
deriving DecidableEq, Repr

/-- White space between the words of a scalar. -/
structure Gap where
  /-- Spaces and tabs before the first line break. -/
  white : Text
  /-- The first line break, when there is one. -/
  first : Text
  /-- The other line breaks. -/
  others : Text
  /-- Whether a line was broken. -/
  broken : Bool

/-- No white space. -/
def Gap.none : Gap := ⟨[], [], [], false⟩

/-- What a gap contributes to a scalar. -/
def Gap.fold (g : Gap) : Text :=
  if !g.broken then g.white
  else if g.first.head? = some '\n' then
    if g.others.isEmpty then [' '] else g.others
  else g.first ++ g.others

/-- Reads white space and line breaks, within a number of steps.  A tab in the indent of a
continuation line is refused when a smallest indent is given. -/
def readGap (indent : Option Int) : Nat → Gap → Cursor → Option (Gap × Cursor)
  | 0, g, c => some (g, c)
  | steps + 1, g, c =>
    match c.peek? with
    | none => some (g, c)
    | some x =>
      if isWhite x then
        if g.broken && x = '\t' && indent.any fun n => (c.column : Int) < n then none
        else readGap indent steps (if g.broken then g else { g with white := g.white ++ [x] }) c.skip
      else if isBreak x then
        let (b, c) := c.takeBreak
        if g.broken then readGap indent steps { g with others := g.others ++ b } c
        else readGap indent steps ⟨[], b, g.others, true⟩ c
      else some (g, c)

/-! ## Plain scalars -/

/-- Whether a character between words ends a plain scalar in a flow collection. -/
def isFlowMark (c : Char) : Bool := c = ',' || c = '[' || c = ']' || c = '{' || c = '}'

/-- Reads a word of a plain scalar, within a number of steps.  The characters read so far come last
first.  A colon ends the word when a gap follows; in a flow collection a colon before a mark is
refused. -/
def plainWord (flow : Bool) : Nat → Text → Cursor → Option (Text × Cursor)
  | 0, done, c => some (done.reverse, c)
  | steps + 1, done, c =>
    match c.peek? with
    | none => some (done.reverse, c)
    | some x =>
      if isWhite x || isBreak x then some (done.reverse, c)
      else if flow && x = ':' && (c.at? 1).any fun y => isFlowMark y || y = '?' then none
      else if (x = ':' && c.gapAt 1) || (flow && isFlowMark x) then some (done.reverse, c)
      else plainWord flow steps (x :: done) c.skip

/-- Reads the words of a plain scalar, within a number of steps.  Gives the text, the cursor, and
whether the scalar ended after a line break. -/
def plainWords (flow : Bool) (indent : Int) :
    Nat → Text → Gap → Cursor → Option (Text × Cursor × Bool)
  | 0, _, _, _ => none
  | steps + 1, done, gap, c =>
    if c.atDocumentMark || c.has 0 '#' then some (done, c, gap.broken)
    else do
      let (word, c) ← plainWord flow (c.rest.length + 1) [] c
      let (done, gap) := if word.isEmpty then (done, gap) else (done ++ gap.fold ++ word, Gap.none)
      if !(c.whiteAt 0 || c.breaksAt 0) then some (done, c, gap.broken)
      else
        let (gap, c) ← readGap (some indent) (c.rest.length + 1) gap c
        if !flow && (c.column : Int) < indent then some (done, c, gap.broken)
        else plainWords flow indent steps done gap c

/-- Reads a plain scalar. -/
def readPlain (flow : Bool) (indent : Int) (c : Cursor) : Option (Text × Cursor × Bool) :=
  plainWords flow indent (c.rest.length + 1) [] Gap.none c

/-! ## Quoted scalars -/

/-- What a letter after a backslash stands for. -/
def escape? : Char → Option Nat
  | '0' => some 0
  | 'a' => some 7
  | 'b' => some 8
  | 't' => some 9
  | '\t' => some 9
  | 'n' => some 10
  | 'v' => some 11
  | 'f' => some 12
  | 'r' => some 13
  | 'e' => some 0x1B
  | ' ' => some 0x20
  | '"' => some 0x22
  | '/' => some 0x2F
  | '\\' => some 0x5C
  | 'N' => some 0x85
  | '_' => some 0xA0
  | 'L' => some 0x2028
  | 'P' => some 0x2029
  | _ => none

/-- How many digits of base sixteen follow a letter after a backslash. -/
def escapeDigits? : Char → Option Nat
  | 'x' => some 2
  | 'u' => some 4
  | 'U' => some 8
  | _ => none

/-- Reads an escape after its backslash. -/
def readEscape (c : Cursor) : Option (Char × Cursor) := do
  let x ← c.peek?
  match escape? x with
  | some n => some (Char.ofNat n, c.skip)
  | none =>
    let width ← escapeDigits? x
    let digits := (c.rest.drop 1).take width
    if digits.length < width then none
    let n ← Text.number? 16 digits
    if 0xD800 ≤ n ∧ n ≤ 0xDFFF ∨ 0x10FFFF < n then none
    some (Char.ofNat n, c.skipMany (width + 1))

/-- Reads the words of a quoted scalar up to the closing quote or the next gap, within a number of
steps.  The flag says that the line was broken by a backslash. -/
def quotedWord (single : Bool) : Nat → Text → Cursor → Option (Text × Cursor × Bool)
  | 0, _, _ => none
  | steps + 1, done, c =>
    match c.peek? with
    | none => some (done.reverse, c, false)
    | some x =>
      if isWhite x || isBreak x then some (done.reverse, c, false)
      else if single then
        if x = '\'' then
          if c.has 1 '\'' then quotedWord single steps ('\'' :: done) (c.skipMany 2)
          else some (done.reverse, c, false)
        else quotedWord single steps (x :: done) c.skip
      else if x = '"' then some (done.reverse, c, false)
      else if x = '\\' then
        if c.breaksAt 1 then some (done.reverse, c.skip.skipBreak, true)
        else do
          let (e, c) ← readEscape c.skip
          quotedWord single steps (e :: done) c
      else quotedWord single steps (x :: done) c.skip

/-- Reads a quoted scalar after its opening quote, within a number of steps. -/
def quotedWords (single : Bool) : Nat → Text → Cursor → Option (Text × Cursor)
  | 0, _, _ => none
  | steps + 1, done, c =>
    if c.atDocumentMark || c.endsAt 0 then none
    else do
      let (word, c, broken) ← quotedWord single (c.rest.length + 1) [] c
      let done := done ++ word
      if c.has 0 (if single then '\'' else '"') then some (done, c.skip)
      else
        let (gap, c) ← readGap none (c.rest.length + 1) { Gap.none with broken } c
        quotedWords single steps (done ++ gap.fold) c

/-- Reads a quoted scalar. -/
def readQuoted (single : Bool) (c : Cursor) : Option (Text × Cursor) :=
  quotedWords single (2 * c.rest.length + 2) [] c.skip

/-! ## Block scalars -/

/-- What happens to the line breaks at the end of a block. -/
inductive Chomp where
  | strip
  | clip
  | keep
deriving DecidableEq, Repr

/-- Reads a chomping indicator. -/
def readChomp (c : Cursor) : Option (Chomp × Cursor) :=
  if c.has 0 '+' then some (.keep, c.skip) else if c.has 0 '-' then some (.strip, c.skip) else none

/-- Reads an indentation indicator; a zero is refused. -/
def readIndentation (c : Cursor) : Option (Option Nat × Cursor) :=
  match c.peek? with
  | some x =>
    if x = '0' then none
    else if Text.isAsciiDigit x then some (some (x.toNat - 48), c.skip)
    else some (none, c)
  | none => some (none, c)

/-- Reads the indicators of a block, which may come in either order. -/
def readIndicators (c : Cursor) : Option (Chomp × Option Nat × Cursor) :=
  match readChomp c with
  | some (chomp, c) => do
    let (indentation, c) ← readIndentation c
    some (chomp, indentation, c)
  | none => do
    let (indentation, c) ← readIndentation c
    if indentation.isSome then
      match readChomp c with
      | some (chomp, c) => some (chomp, indentation, c)
      | none => some (.clip, indentation, c)
    else some (.clip, none, c)

/-- Reads indents and empty lines, within a number of steps.  An indent of zero is not known yet.
Gives the breaks, the greatest column reached, and the cursor. -/
def blockBreaks (indent : Nat) : Nat → Text → Nat → Cursor → Option (Text × Nat × Cursor)
  | 0, _, _, _ => none
  | steps + 1, breaks, widest, c =>
    let spaces := (c.rest.takeWhile (· = ' ')).length
    let c := c.skipMany (if indent = 0 then spaces else min spaces (indent - c.column))
    let widest := max widest c.column
    if (indent = 0 || c.column < indent) && c.has 0 '\t' then none
    else if c.breaksAt 0 then
      let (b, c) := c.takeBreak
      blockBreaks indent steps (breaks ++ b) widest c
    else some (breaks, widest, c)

/-- The lines of a block that were read, and what separates them from the next. -/
structure Block where
  text : Text
  /-- The line break after the last line. -/
  leading : Text
  /-- The empty lines after that. -/
  trailing : Text
  /-- Whether the last line began with white space. -/
  blank : Bool

/-- Reads the lines of a block with a known indent, within a number of steps. -/
def blockLines (fold : Bool) (indent : Nat) : Nat → Block → Cursor → Option (Block × Cursor)
  | 0, _, _ => none
  | steps + 1, b, c =>
    if c.column ≠ indent || c.endsAt 0 then some (b, c)
    else do
      let blank := c.whiteAt 0
      let joint :=
        if fold && b.leading.head? = some '\n' && !b.blank && !blank then
          (if b.trailing.isEmpty then [' '] else []) ++ b.trailing
        else b.leading ++ b.trailing
      let (line, c) := c.takeWhile fun x => !isBreak x
      let (leading, c) := c.takeBreak
      let (trailing, _, c) ← blockBreaks indent (c.rest.length + 1) [] 0 c
      blockLines fold indent steps ⟨b.text ++ joint ++ line, leading, trailing, blank⟩ c

/-- Reads a block scalar.  The indent is that of the collection around it, and -1 outside of any. -/
def readBlock (fold : Bool) (outer : Int) (c : Cursor) : Option (Text × Cursor) := do
  let (chomp, indentation, c) ← readIndicators c.skip
  let c := c.skipWhite.skipComment
  if !c.atLineEnd then none
  let c := c.skipBreak
  let given := match indentation with
    | some n => if 0 ≤ outer then outer.toNat + n else n
    | none => 0
  let (trailing, widest, c) ← blockBreaks given (c.rest.length + 1) [] 0 c
  let indent := if given = 0 then max widest (max (outer + 1).toNat 1) else given
  let (b, c) ← blockLines fold indent (c.rest.length + 1) ⟨[], [], trailing, false⟩ c
  let ending := match chomp with
    | .strip => []
    | .clip => b.leading
    | .keep => b.leading ++ b.trailing
  some (b.text ++ ending, c)

end Yaml

end PinnedActions
