import PinnedActions.Text.Utf8
import PinnedActions.Yaml.Scalar

/-!
# Tokens of YAML

`Token.ofText?` cuts a YAML text into tokens.  Besides what is written there are tokens for what the
layout says: a deeper indent opens a block collection, and a shallower one closes it.

Whether a scalar is a key is known only when a colon follows it.  A place where a key may have begun
is therefore kept as a **candidate**, one for every level of flow collections, and the tokens for the
key are put in at that place later.  A candidate is given up at the end of its line, or when it gets
too long; one that had to be a key is then an error.
-/

set_option autoImplicit false

namespace PinnedActions

namespace Yaml

/-- A token. -/
inductive Token where
  | versionDirective (major minor : Nat)
  | tagDirective (handle expansion : Text)
  | documentStart
  | documentEnd
  | blockSequenceStart
  | blockMappingStart
  | blockEnd
  | flowSequenceStart
  | flowSequenceEnd
  | flowMappingStart
  | flowMappingEnd
  | blockEntry
  | flowEntry
  | key
  | value
  | alias (name : Text)
  | anchor (name : Text)
  | tag (handle suffix : Text)
  | scalar (text : Text) (style : Style)
deriving DecidableEq, Repr

namespace Token

/-- A place where a key may have begun. -/
structure Candidate where
  /-- Whether something has to be a key there. -/
  required : Bool
  /-- The number of tokens before it. -/
  position : Nat
  offset : Nat
  line : Nat
  column : Nat

/-- What a reader of tokens knows: where it is, the tokens so far, the indents of the open block
collections, and the candidates for keys of the open flow collections, the innermost first. -/
structure Scan where
  cursor : Cursor
  tokens : Array Token
  indent : Int
  indents : List Int
  /-- How many flow collections are open. -/
  flow : Nat
  /-- Whether a key may begin here. -/
  keyAllowed : Bool
  candidates : List (Option Candidate)

namespace Scan

/-- The scan of a text from its start. -/
def start (t : Text) : Scan := ⟨⟨t, 0, 0, 0⟩, #[], -1, [], 0, true, [none]⟩

/-- The scan with a token at the end. -/
def push (s : Scan) (t : Token) : Scan := { s with tokens := s.tokens.push t }

/-- The scan with another cursor. -/
def moveTo (s : Scan) (c : Cursor) : Scan := { s with cursor := c }

/-! ## Indents -/

/-- Closes the block collections that are deeper than a column. -/
def unroll (column : Int) : Nat → Scan → Scan
  | 0, s => s
  | steps + 1, s =>
    if s.flow ≠ 0 ∨ s.indent ≤ column then s
    else unroll column steps
      { s.push .blockEnd with indent := s.indents.headD (-1), indents := s.indents.tail }

/-- Closes the block collections that are deeper than a column. -/
def closeTo (s : Scan) (column : Int) : Scan := unroll column (s.indents.length + 1) s

/-- Opens a block collection at a column that is deeper than the indent.  Its token goes to a
position among the tokens. -/
def openAt (s : Scan) (column : Nat) (position : Nat) (t : Token) : Scan :=
  if s.flow = 0 ∧ s.indent < column then
    { s with
      indents := s.indent :: s.indents
      indent := column
      tokens := s.tokens.insertIdxIfInBounds position t }
  else s

/-- Opens a block collection here. -/
def openHere (s : Scan) (t : Token) : Scan := s.openAt s.cursor.column s.tokens.size t

/-! ## Candidates for keys -/

/-- The largest size of a key, in bytes. -/
def keyLimit : Nat := 1024

/-- A candidate, unless it cannot be a key any more. -/
def refresh (c : Cursor) : Option Candidate → Option (Option Candidate)
  | none => some none
  | some k =>
    if k.line < c.line ∨ k.offset + keyLimit < c.offset then
      if k.required then none else some none
    else some (some k)

/-- Gives up the candidates that cannot be keys any more. -/
def dropStale (s : Scan) : Option Scan := do
  return { s with candidates := ← s.candidates.mapM (refresh s.cursor) }

/-- Gives up the innermost candidate. -/
def dropCandidate (s : Scan) : Option Scan :=
  match s.candidates with
  | some k :: rest => if k.required then none else some { s with candidates := none :: rest }
  | _ => some s

/-- Notes that a key may begin here. -/
def noteCandidate (s : Scan) : Option Scan := do
  if !s.keyAllowed then return s
  let c := s.cursor
  let k : Candidate :=
    ⟨s.flow = 0 ∧ s.indent = c.column, s.tokens.size, c.offset, c.line, c.column⟩
  let s ← s.dropCandidate
  return { s with candidates := some k :: s.candidates.tail }

/-! ## White space and comments -/

/-- The scan at the next token, within a number of steps.  A byte order mark at the start of a line
is passed over, but takes up its column. -/
def skipToToken : Nat → Scan → Scan
  | 0, s => s
  | steps + 1, s =>
    let c := s.cursor
    let c := if c.column = 0 && c.has 0 '\uFEFF' then c.skip else c
    let tabs := s.flow ≠ 0 || !s.keyAllowed
    let c := (c.takeWhile fun x => x = ' ' || (tabs && x = '\t')).2.skipComment
    if c.breaksAt 0 then
      skipToToken steps { s with cursor := c.skipBreak, keyAllowed := s.keyAllowed || s.flow = 0 }
    else s.moveTo c

/-! ## Directives -/

/-- Reads a number of a version. -/
def versionNumber (c : Cursor) : Option (Nat × Cursor) := do
  let (digits, c) := c.takeWhile Text.isAsciiDigit
  if 9 < digits.length then none
  let n ← Text.number? 10 digits
  some (n, c)

/-- Reads a tag handle: an exclamation mark, a name, and perhaps another exclamation mark. -/
def tagHandle (directive : Bool) (c : Cursor) : Option (Text × Cursor) :=
  if !c.has 0 '!' then none
  else
    let (name, c) := c.skip.takeWhile isNameChar
    if c.has 0 '!' then some ('!' :: name ++ ['!'], c.skip)
    else if directive && !name.isEmpty then none
    else some ('!' :: name, c)

/-- Whether a character may stand in a tag.  Some marks are allowed only between angle brackets. -/
def isTagChar (verbatim : Bool) (x : Char) : Bool :=
  isNameChar x || x ∈ [';', '/', '?', ':', '@', '&', '=', '+', '$', '.', '%', '!', '~', '*', '\'',
    '(', ')'] || (verbatim && (x = ',' || x = '[' || x = ']'))

/-- The byte that a percent sign and two digits at the front stand for. -/
def escapedByte (c : Cursor) : Option (UInt8 × Cursor) :=
  match c.rest with
  | '%' :: high :: low :: _ => do
    let n ← Text.number? 16 [high, low]
    some (UInt8.ofNat n, c.skipMany 3)
  | _ => none

/-- Reads further bytes of a character that is written with percent signs. -/
def escapedBytes : Nat → List UInt8 → Cursor → Option (List UInt8 × Cursor)
  | 0, bytes, c => some (bytes.reverse, c)
  | n + 1, bytes, c => do
    let (b, c) ← escapedByte c
    escapedBytes n (b :: bytes) c

/-- Reads a character that is written with percent signs. -/
def escapedTagChar (c : Cursor) : Option (Text × Cursor) := do
  let (b, c) ← escapedByte c
  let lead ← Utf8.lead? b.toNat
  let (bytes, c) ← escapedBytes lead.following [b] c
  let t ← Utf8.decode? bytes
  some (t, c)

/-- Reads the characters of a tag, within a number of steps. -/
def tagChars (verbatim : Bool) : Nat → Text → Cursor → Option (Text × Cursor)
  | 0, done, c => some (done, c)
  | steps + 1, done, c =>
    match c.peek? with
    | none => some (done, c)
    | some x =>
      if x = '%' then do
        let (t, c) ← escapedTagChar c
        tagChars verbatim steps (done ++ t) c
      else if isTagChar verbatim x then tagChars verbatim steps (done ++ [x]) c.skip
      else some (done, c)

/-- Reads the characters of a tag after those at its head, which may be none; there has to be at
least one in all. -/
def tagText (verbatim : Bool) (head : Text) (c : Cursor) : Option (Text × Cursor) := do
  let (t, c) ← tagChars verbatim (c.rest.length + 1) head.tail c
  if head.isEmpty && t.isEmpty then none
  some (t, c)

/-- Reads a directive. -/
def directive (c : Cursor) : Option (Token × Cursor) := do
  let (name, c) := c.skip.takeWhile isNameChar
  if name.isEmpty || !c.gapAt 0 then none
  let (token, c) ←
    if name = "YAML".toList then do
      let (major, c) ← versionNumber c.skipWhite
      if !c.has 0 '.' then none
      let (minor, c) ← versionNumber c.skip
      some (versionDirective major minor, c)
    else if name = "TAG".toList then do
      let (handle, c) ← tagHandle true c.skipWhite
      if !c.whiteAt 0 then none
      let (expansion, c) ← tagText true [] c.skipWhite
      if !c.gapAt 0 then none
      some (tagDirective handle expansion, c)
    else none
  let c := c.skipWhite.skipComment
  if !c.atLineEnd then none
  some (token, c.skipBreak)

/-! ## Anchors and tags -/

/-- Reads the name of an anchor or an alias, after its mark. -/
def anchorName (c : Cursor) : Option (Text × Cursor) :=
  let (name, c) := c.skip.takeWhile isNameChar
  if name.isEmpty then none
  else if c.gapAt 0 || (c.peek?).any (· ∈ ['?', ':', ',', ']', '}', '%', '@', '`']) then
    some (name, c)
  else none

/-- Reads a tag. -/
def readTag (inFlow : Bool) (c : Cursor) : Option (Token × Cursor) := do
  let (token, c) ←
    if c.has 1 '<' then do
      let (suffix, c) ← tagText true [] (c.skipMany 2)
      if !c.has 0 '>' then none
      some (tag [] suffix, c.skip)
    else do
      let (handle, c) ← tagHandle false c
      if 2 ≤ handle.length ∧ handle.getLast? = some '!' then
        let (suffix, c) ← tagText false [] c
        some (tag handle suffix, c)
      else
        let (suffix, c) ← tagText false handle c
        some (if suffix.isEmpty then tag [] ['!'] else tag ['!'] suffix, c)
  if (inFlow && c.has 0 ',') || c.gapAt 0 then some (token, c) else none

/-! ## One token -/

/-- Takes a mark of one character, after which a key is allowed or not. -/
def mark (s : Scan) (t : Token) (keyAllowed : Bool) : Scan :=
  { (s.push t).moveTo s.cursor.skip with keyAllowed }

/-- Ends all block collections, for something that stands between documents. -/
def endBlocks (s : Scan) : Option Scan := do
  let s ← (s.closeTo (-1)).dropCandidate
  return { s with keyAllowed := false }

/-- Takes the mark of an entry of a block sequence. -/
def takeBlockEntry (s : Scan) : Option Scan := do
  if s.flow = 0 && !s.keyAllowed then none
  let s ← (s.openHere .blockSequenceStart).dropCandidate
  return s.mark .blockEntry true

/-- Takes the mark of a key that is written out. -/
def takeKey (s : Scan) : Option Scan := do
  if s.flow = 0 && !s.keyAllowed then none
  let s ← (s.openHere .blockMappingStart).dropCandidate
  return s.mark .key (s.flow = 0)

/-- Takes the mark of a value.  The candidate, when there is one, was its key. -/
def takeValue (s : Scan) : Option Scan :=
  match s.candidates with
  | some k :: rest =>
    let s := { s with
      tokens := s.tokens.insertIdxIfInBounds k.position .key
      candidates := none :: rest }
    some ((s.openAt k.column k.position .blockMappingStart).mark .value false)
  | _ =>
    if s.flow = 0 && !s.keyAllowed then none
    else
      let s := s.openHere .blockMappingStart
      some (s.mark .value (s.flow = 0))

/-- Takes the opening mark of a flow collection. -/
def openFlow (s : Scan) (t : Token) : Option Scan := do
  let s ← s.noteCandidate
  return { s.mark t true with flow := s.flow + 1, candidates := none :: s.candidates }

/-- Takes the closing mark of a flow collection. -/
def closeFlow (s : Scan) (t : Token) : Option Scan := do
  let s ← s.dropCandidate
  let s := if s.flow = 0 then s else { s with flow := s.flow - 1, candidates := s.candidates.tail }
  return s.mark t false

/-- Takes something at which a key may begin. -/
def takeContent (s : Scan) (read : Cursor → Option (Token × Cursor)) : Option Scan := do
  let s ← s.noteCandidate
  let (t, c) ← read s.cursor
  return { (s.push t).moveTo c with keyAllowed := false }

/-- Takes a plain scalar.  After one that ended with a line break a key may begin. -/
def takePlain (s : Scan) : Option Scan := do
  let s ← s.noteCandidate
  let (t, c, broken) ← readPlain (s.flow ≠ 0) (s.indent + 1) s.cursor
  return { (s.push (.scalar t .plain)).moveTo c with keyAllowed := broken }

/-- Takes a block scalar. -/
def takeBlock (s : Scan) (fold : Bool) : Option Scan := do
  let s ← s.dropCandidate
  let (t, c) ← readBlock fold s.indent s.cursor
  return { (s.push (.scalar t (if fold then .folded else .literal))).moveTo c with keyAllowed := true }

/-- Takes the next token, which starts with a given character. -/
def takeToken (s : Scan) (x : Char) : Option Scan :=
  let c := s.cursor
  if c.column = 0 && x = '%' then do
    let s ← s.endBlocks
    let (t, c) ← directive c
    return (s.push t).moveTo c
  else if c.atDocumentMark then do
    let s ← s.endBlocks
    return (s.push (if x = '-' then .documentStart else .documentEnd)).moveTo (c.skipMany 3)
  else if x = '[' then s.openFlow .flowSequenceStart
  else if x = '{' then s.openFlow .flowMappingStart
  else if x = ']' then s.closeFlow .flowSequenceEnd
  else if x = '}' then s.closeFlow .flowMappingEnd
  else if x = ',' then do
    let s ← s.dropCandidate
    return s.mark .flowEntry true
  else if x = '-' && c.gapAt 1 then s.takeBlockEntry
  else if x = '?' && (s.flow ≠ 0 || c.gapAt 1) then s.takeKey
  else if x = ':' && (s.flow ≠ 0 || c.gapAt 1) then s.takeValue
  else if x = '*' then s.takeContent fun c => (anchorName c).map fun (n, c) => (.alias n, c)
  else if x = '&' then s.takeContent fun c => (anchorName c).map fun (n, c) => (.anchor n, c)
  else if x = '!' then s.takeContent (readTag (s.flow ≠ 0))
  else if x = '|' && s.flow = 0 then s.takeBlock false
  else if x = '>' && s.flow = 0 then s.takeBlock true
  else if x = '\'' || x = '"' then
    s.takeContent fun c => (readQuoted (x = '\'') c).map fun (t, c) => (.scalar t .quoted, c)
  else if x ∈ ['-', '?', ':', '#', '|', '>', '%', '@', '`'] then
    if (x = '-' && !c.whiteAt 1) || (s.flow = 0 && (x = '?' || x = ':') && !c.gapAt 1) then
      s.takePlain
    else none
  else if isWhite x || isBreak x then none
  else s.takePlain

/-- Takes all tokens, within a number of steps. -/
def run : Nat → Scan → Option (Array Token)
  | 0, _ => none
  | steps + 1, s => do
    let s ← (skipToToken (s.cursor.rest.length + 1) s).dropStale
    let s := s.closeTo s.cursor.column
    match s.cursor.peek? with
    | none =>
      let s ← s.endBlocks
      return s.tokens
    | some x => run steps (← s.takeToken x)

end Scan

/-- The tokens of a text; `none` when it is not YAML. -/
def ofText? (t : Text) : Option (List Token) :=
  if t.all isPrintable then ((Scan.start t).run (2 * t.length + 2)).map Array.toList else none

end Token

end Yaml

end PinnedActions
