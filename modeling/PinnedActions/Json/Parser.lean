import PinnedActions.Json.Basic
import PinnedActions.Text.Utf8

/-!
# Reading JSON

`Json.parse` reads a text that holds one JSON value.  White space is a space, a tab, a line feed or
a carriage return and nothing else; numbers have no leading zeros and no leading plus sign; a string
holds no control character; arrays and objects nest at most `depthLimit` deep.  When a key stands
twice in an object the last one counts, and members come out in the order of their keys.

A refusal says what was wrong and where: `Fault.message` gives the line and the column.
-/

set_option autoImplicit false

namespace PinnedActions

namespace Json

/-- What can be wrong with a text that should be JSON. -/
inductive Flaw where
  | endInList | endInObject | endInString | endInValue
  | colonExpected | listCommaExpected | objectCommaExpected
  | identExpected | valueExpected
  | badEscape | badNumber | numberTooLarge | badCodePoint
  | controlCharacter | keyExpected | loneSurrogate | trailingComma | trailingCharacters | tooDeep
deriving DecidableEq, Repr

/-- The wording of a flaw. -/
def Flaw.message : Flaw → Text
  | .endInList => "EOF while parsing a list".toList
  | .endInObject => "EOF while parsing an object".toList
  | .endInString => "EOF while parsing a string".toList
  | .endInValue => "EOF while parsing a value".toList
  | .colonExpected => "expected `:`".toList
  | .listCommaExpected => "expected `,` or `]`".toList
  | .objectCommaExpected => "expected `,` or `".toList ++ ['}', '`']
  | .identExpected => "expected ident".toList
  | .valueExpected => "expected value".toList
  | .badEscape => "invalid escape".toList
  | .badNumber => "invalid number".toList
  | .numberTooLarge => "number out of range".toList
  | .badCodePoint => "invalid unicode code point".toList
  | .controlCharacter =>
    "control character (\\u0000-\\u001F) found while parsing a string".toList
  | .keyExpected => "key must be a string".toList
  | .loneSurrogate => "lone leading surrogate in hex escape".toList
  | .trailingComma => "trailing comma".toList
  | .trailingCharacters => "trailing characters".toList
  | .tooDeep => "recursion limit exceeded".toList

/-- A flaw and the place where reading stopped. -/
structure Fault where
  flaw : Flaw
  line : Nat
  column : Nat
deriving DecidableEq, Repr

/-- The wording of a fault. -/
def Fault.message (f : Fault) : Text :=
  f.flaw.message ++ " at line ".toList ++ Text.decimal f.line ++ " column ".toList ++
    Text.decimal f.column

/-- How deep arrays and objects may nest. -/
def depthLimit : Nat := 127

/-- What a reader of a part gives: the part and the rest, or a flaw and the text at which it was
noticed. -/
abbrev Reading (α : Type) := Except (Flaw × Text) (α × Text)

/-- White space of JSON. -/
def isSpace (c : Char) : Bool := c = ' ' || c = '\t' || c = '\n' || c = '\r'

/-- The text without leading white space. -/
def skipSpace (t : Text) : Text := t.dropWhile isSpace

/-! ## Strings -/

/-- The code unit written with four digits of base sixteen. -/
def codeUnit (t : Text) : Reading Nat :=
  match t with
  | a :: b :: c :: d :: rest =>
    match Text.number? 16 [a, b, c, d] with
    | some n => .ok (n, rest)
    | none => .error (.badEscape, t)
  | _ => .error (.endInString, [])

/-- The character whose escape starts with `\u`, which may take two code units. -/
def escapedChar (t : Text) : Except (Flaw × Text) (Char × Text) := do
  let (high, rest) ← codeUnit t
  if 0xDC00 ≤ high ∧ high ≤ 0xDFFF then .error (.loneSurrogate, rest)
  else if 0xD800 ≤ high ∧ high ≤ 0xDBFF then
    match rest with
    | '\\' :: 'u' :: more =>
      let (low, rest) ← codeUnit more
      if 0xDC00 ≤ low ∧ low ≤ 0xDFFF then
        .ok (Char.ofNat (0x10000 + (high - 0xD800) * 0x400 + (low - 0xDC00)), rest)
      else .error (.loneSurrogate, rest)
    | _ => .error (.loneSurrogate, rest)
  else .ok (Char.ofNat high, rest)

/-- The character that a letter after a backslash stands for. -/
def simpleEscape? : Char → Option Char
  | '"' => some '"'
  | '\\' => some '\\'
  | '/' => some '/'
  | 'b' => some (Char.ofNat 8)
  | 'f' => some (Char.ofNat 12)
  | 'n' => some '\n'
  | 'r' => some '\r'
  | 't' => some '\t'
  | _ => none

/-- The rest of a string after its opening quote, within a number of steps.  The characters read so
far come last first. -/
def stringBody : Nat → Text → Text → Reading Text
  | 0, _, t => .error (.endInString, t)
  | _ + 1, _, [] => .error (.endInString, [])
  | steps + 1, done, c :: rest =>
    if c = '"' then .ok (done.reverse, rest)
    else if c = '\\' then
      match rest with
      | [] => .error (.endInString, [])
      | 'u' :: rest =>
        match escapedChar rest with
        | .ok (c, rest) => stringBody steps (c :: done) rest
        | .error e => .error e
      | e :: rest' =>
        match simpleEscape? e with
        | some c => stringBody steps (c :: done) rest'
        | none => .error (.badEscape, rest')
    else if c.toNat < 32 then .error (.controlCharacter, rest)
    else stringBody steps (c :: done) rest

/-- A string after its opening quote. -/
def string (t : Text) : Reading Text := stringBody (t.length + 1) [] t

/-! ## Numbers -/

/-- The digits at the front and the rest. -/
def digits (t : Text) : Text × Text := t.span Text.isAsciiDigit

/-- The value of a sequence of ASCII digits; the empty one counts as zero. -/
def digitsValue (t : Text) : Nat := (Text.number? 10 t).getD 0

/-- The exponent of a number, when one is there. -/
def exponentPart (t : Text) : Reading (Option Int) :=
  match t with
  | [] => .ok (none, t)
  | e :: rest =>
    if e = 'e' ∨ e = 'E' then
      let (negative, rest) := match rest with
        | '-' :: more => (true, more)
        | '+' :: more => (false, more)
        | more => (false, more)
      let (ds, rest) := digits rest
      if ds.isEmpty then .error (if rest.isEmpty then .endInValue else .badNumber, rest)
      else
        let n : Int := digitsValue ds
        .ok (some (if negative then -n else n), rest)
    else .ok (none, t)

/-- The fraction of a number, when one is there: its digits. -/
def fractionPart (t : Text) : Reading (Option Text) :=
  match t with
  | '.' :: rest =>
    let (ds, rest) := digits rest
    if ds.isEmpty then .error (if rest.isEmpty then .endInValue else .badNumber, rest)
    else .ok (some ds, rest)
  | _ => .ok (none, t)

/-- The digits after those of `n`, taken one by one as long as the number they make fits in
sixty-four bits: that number, and how many digits were taken. -/
def takeDigits (n : Nat) : Text → Nat × Nat
  | [] => (n, 0)
  | c :: rest =>
    let longer := 10 * n + (c.toNat - 48)
    if Nat.pow 2 64 ≤ longer then (n, 0)
    else
      let (m, taken) := takeDigits longer rest
      (m, taken + 1)

/-- A number that is not kept as an integer.  Digits that do not fit in sixty-four bits count as
zeros. -/
def realNumber (negative : Bool) (whole fraction : Text) (exponent : Int) (rest : Text) :
    Reading Json :=
  let (n, wholeTaken) := takeDigits 0 whole
  let (n, fractionTaken) := takeDigits n fraction
  let power : Int := (whole.length : Int) - wholeTaken - fractionTaken
  match Double.ofParts? n (power + exponent) with
  | some x => .ok (.real (if negative then x.negate else x), rest)
  | none => .error (.numberTooLarge, rest)

/-- A number after its sign.  A minus zero, and an integer that does not fit in sixty-four bits, are
kept with the numbers that have a fraction. -/
def number (negative : Bool) (t : Text) : Except (Flaw × Text) (Json × Text) := do
  let (whole, rest) := digits t
  match whole with
  | [] => .error (if rest.isEmpty then .endInValue else .badNumber, rest)
  | '0' :: _ :: _ => .error (.badNumber, rest)
  | _ =>
    let (fraction, rest) ← fractionPart rest
    let (exponent, rest) ← exponentPart rest
    let n := digitsValue whole
    if fraction.isNone ∧ exponent.isNone ∧
        (if negative then 0 < n ∧ n ≤ Nat.pow 2 63 else n < Nat.pow 2 64) then
      .ok (.int (if negative then -(n : Int) else n), rest)
    else realNumber negative whole (fraction.getD []) (exponent.getD 0) rest

/-! ## Values -/

/-- One of the three words that are values. -/
def word (w : Text) (value : Json) (t : Text) : Reading Json :=
  match w.isPrefixOf? t with
  | some rest => .ok (value, rest)
  | none => .error (if t.isPrefixOf w then .endInValue else .identExpected, t)

mutual

/-- A value, within a number of steps and at most so many levels deep. -/
def value : Nat → Nat → Text → Reading Json
  | 0, _, t => .error (.tooDeep, t)
  | steps + 1, depth, t =>
    match skipSpace t with
    | [] => .error (.endInValue, [])
    | c :: rest =>
      if c = '"' then (string rest).map fun (s, rest) => (.str s, rest)
      else if c = '[' then
        if depth = 0 then .error (.tooDeep, c :: rest) else
        match skipSpace rest with
        | [] => .error (.endInList, [])
        | ']' :: rest => .ok (.arr [], rest)
        | rest => items steps (depth - 1) [] rest
      else if c = '{' then
        if depth = 0 then .error (.tooDeep, c :: rest) else
        match skipSpace rest with
        | [] => .error (.endInObject, [])
        | '}' :: rest => .ok (.obj [], rest)
        | rest => members steps (depth - 1) [] rest
      else if c = 't' then word "true".toList (.bool true) (c :: rest)
      else if c = 'f' then word "false".toList (.bool false) (c :: rest)
      else if c = 'n' then word "null".toList .null (c :: rest)
      else if c = '-' then number true rest
      else if Text.isAsciiDigit c then number false (c :: rest)
      else .error (.valueExpected, c :: rest)

/-- The items of an array up to its closing bracket, after those already read. -/
def items : Nat → Nat → List Json → Text → Reading Json
  | 0, _, _, t => .error (.tooDeep, t)
  | steps + 1, depth, done, t =>
    match value steps depth t with
    | .error e => .error e
    | .ok (v, rest) =>
      match skipSpace rest with
      | [] => .error (.endInList, [])
      | ']' :: rest => .ok (.arr (v :: done).reverse, rest)
      | ',' :: rest =>
        match skipSpace rest with
        | ']' :: rest => .error (.trailingComma, ']' :: rest)
        | rest => items steps depth (v :: done) rest
      | rest => .error (.listCommaExpected, rest)

/-- The members of an object up to its closing brace, added to those already read. -/
def members : Nat → Nat → List (Text × Json) → Text → Reading Json
  | 0, _, _, t => .error (.tooDeep, t)
  | steps + 1, depth, done, t =>
    match skipSpace t with
    | [] => .error (.endInObject, [])
    | '"' :: rest =>
      match string rest with
      | .error e => .error e
      | .ok (key, rest) =>
        match skipSpace rest with
        | [] => .error (.endInObject, [])
        | ':' :: rest =>
          match value steps depth rest with
          | .error e => .error e
          | .ok (v, rest) =>
            match skipSpace rest with
            | [] => .error (.endInObject, [])
            | '}' :: rest => .ok (.obj (insertMember key v done), rest)
            | ',' :: rest =>
              match skipSpace rest with
              | '}' :: rest => .error (.trailingComma, '}' :: rest)
              | rest => members steps depth (insertMember key v done) rest
            | rest => .error (.objectCommaExpected, rest)
        | rest => .error (.colonExpected, rest)
    | rest => .error (.keyExpected, rest)

end

/-! ## Whole texts -/

/-- The place just after the first character of what was left when reading `t` stopped. -/
def placeOf (t rest : Text) : Nat × Nat :=
  let consumed := t.take (t.length - rest.length)
  let lines := consumed.splitOn '\n'
  (lines.length, (Utf8.encode (lines.getLastD [])).length + (if rest.isEmpty then 0 else 1))

/-- Reads a text that holds one value and nothing else. -/
def parse (t : Text) : Except Fault Json :=
  let fail (flaw : Flaw) (rest : Text) : Except Fault Json :=
    let (line, column) := placeOf t rest
    .error ⟨flaw, line, column⟩
  match value (2 * t.length + 2) depthLimit t with
  | .error (flaw, rest) => fail flaw rest
  | .ok (v, rest) =>
    match skipSpace rest with
    | [] => .ok v
    | rest => fail .trailingCharacters rest

end Json

end PinnedActions
