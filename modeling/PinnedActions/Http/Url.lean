import PinnedActions.Http.Host

/-!
# URLs

A URL is read from a text, and has one written form.  What comes after the first `#` is its fragment,
what comes after the first `?` before that is its query, and what comes before the first colon is its
scheme.  The rest is a host and a path, or, under a scheme that knows no hosts, one solid text.

A path is a sequence of segments.  A segment that is a single dot says nothing, and one of two dots
takes the segment before it away, unless that names a drive; both also count when a dot is written as
a byte.  A character that may not stand where it stands is written as bytes.

* `Url.parse?` — the URL in a text.
* `Url.resolveDots` — a path without the segments of dots.
* `Url.toText` — the written form.
-/

set_option autoImplicit false

namespace PinnedActions

/-- What comes after the host. -/
inductive UrlPath where
  /-- A text without parts. -/
  | solid (text : Text)
  | segments (segments : List Text)
deriving DecidableEq, Repr

/-- A name and a password in front of a host, as they are written in a URL. -/
structure Credentials where
  name : Text
  password : Text
deriving DecidableEq, Repr

/-- A URL. -/
structure Url where
  scheme : Text
  credentials : Credentials
  host : Option Text
  /-- The number after the host, unless it is the usual one of the scheme. -/
  portNumber : Option Nat
  path : UrlPath
  query : Option Text
  fragment : Option Text
deriving DecidableEq, Repr

namespace Url

/-! ## Which characters stand for themselves -/

/-- Whether a character is one of ASCII and not a control character. -/
def isPrintable (c : Char) : Bool := 0x20 ≤ c.toNat && c.toNat < 0x7F

/-- Whether a character stands for itself in a fragment. -/
def keepInFragment (c : Char) : Bool :=
  isPrintable c && c != ' ' && c != '"' && c != '<' && c != '>' && c.toNat != 0x60

/-- Whether a character stands for itself in a path. -/
def keepInPath (c : Char) : Bool :=
  keepInFragment c && c != '#' && c != '?' && c.toNat != 0x7B && c.toNat != 0x7D

/-- Whether a character stands for itself in a query.  Under a scheme of the web an apostrophe does
not. -/
def keepInQuery (isWeb : Bool) (c : Char) : Bool :=
  isPrintable c && c != ' ' && c != '"' && c != '#' && c != '<' && c != '>'
    && !(isWeb && c = '\'')

/-- Whether a character stands for itself in a name or a password. -/
def keepInCredentials (c : Char) : Bool :=
  keepInPath c && !"/:;=@[\\]^|".toList.contains c

/-! ## Schemes -/

/-- The schemes that have hosts, with the usual numbers after them. -/
def webSchemes : List (Text × Nat) :=
  [("http".toList, 80), ("https".toList, 443), ("ws".toList, 80), ("wss".toList, 443),
   ("ftp".toList, 21)]

/-- The scheme of files. -/
def fileScheme : Text := "file".toList

/-- Whether a character may stand in a scheme after its first letter. -/
def isSchemeChar (c : Char) : Bool :=
  Text.isAsciiLetter c || Text.isAsciiDigit c || c = '+' || c = '-' || c = '.'

/-- The scheme at the front of a text, in lowercase, and what follows its colon. -/
def scheme? (t : Text) : Option (Text × Text) :=
  match t.span isSchemeChar with
  | (c :: name, ':' :: rest) =>
    if Text.isAsciiLetter c then some ((c :: name).map Text.asciiLower, rest) else none
  | _ => none

/-! ## Paths -/

/-- A segment with every dot written as a dot. -/
def plainDots : Text → Text
  | '%' :: '2' :: 'e' :: rest | '%' :: '2' :: 'E' :: rest => '.' :: plainDots rest
  | c :: rest => c :: plainDots rest
  | [] => []

/-- Whether a segment is a single dot. -/
def isDot (segment : Text) : Bool := plainDots segment = ['.']

/-- Whether a segment is two dots. -/
def isDoubleDot (segment : Text) : Bool := plainDots segment = ['.', '.']

/-- Whether a segment names a drive: a letter, and a colon or a bar. -/
def isDrive : Text → Bool
  | [letter, mark] => Text.isAsciiLetter letter && (mark = ':' || mark = '|')
  | _ => false

/-- The segments before, given from the last to the first, without the last of them.  A drive is
never taken away. -/
def goUp : List Text → List Text
  | [] => []
  | segment :: before => if isDrive segment then segment :: before else before

/-- The segments that are left, when those before are given from the last to the first.  A segment of
dots at the very end leaves an empty one. -/
def resolveDots : List Text → List Text → List Text
  | before, [] => before.reverse
  | before, segment :: rest =>
    if isDoubleDot segment then
      if rest.isEmpty then ([] :: goUp before).reverse else resolveDots (goUp before) rest
    else if isDot segment then
      if rest.isEmpty then ([] :: before).reverse else resolveDots before rest
    else resolveDots (segment :: before) rest

/-- Whether a character separates segments.  Under a scheme of the web a backslash does, too. -/
def isSlash (isWeb : Bool) (c : Char) : Bool := c = '/' || (isWeb && c = '\\')

/-- The segments of a text that follows a host. -/
def segmentsOf (isWeb : Bool) (t : Text) : List Text :=
  match t.splitOnP (isSlash isWeb) with
  | [] :: first :: rest => resolveDots [] ((first :: rest).map (Percent.encode keepInPath))
  | [[]] => if isWeb then [[]] else []
  | pieces => resolveDots [] (pieces.map (Percent.encode keepInPath))

/-! ## Hosts and the numbers after them -/

/-- The host of a text that may have a number after it, and what follows its colon.  A colon in
brackets belongs to the host. -/
def cutNumber (t : Text) : Text × Option Text :=
  let (front, back) :=
    if t.head? = some '[' then t.span (· != ']') else ([], t)
  match back.span (· != ':') with
  | (name, _ :: number) => (front ++ name, some number)
  | (name, []) => (front ++ name, none)

/-- The number after a host, unless it is the usual one.  Nothing after the colon is no number. -/
def portNumber? (usual : Option Nat) : Option Text → Option (Option Nat)
  | none | some [] => some none
  | some digits =>
    if digits.all Text.isAsciiDigit then
      match Text.number? 10 digits with
      | some n => if n < 65536 then some (if some n = usual then none else some n) else none
      | none => none
    else none

/-- What precedes the last `@`, and what follows it. -/
def cutCredentials (t : Text) : Option Text × Text :=
  match Text.cutLast? '@' t with
  | some (before, host) => (some before, host)
  | none => (none, t)

/-- The name and the password in a text, between which the first colon stands. -/
def credentialsOf (t : Text) : Credentials :=
  let (name, password) := t.span (· != ':')
  ⟨Percent.encode keepInCredentials name, Percent.encode keepInCredentials (password.drop 1)⟩

/-- No name and no password. -/
def noCredentials : Credentials := ⟨[], []⟩

/-- What a URL says about the place that it leads to. -/
structure Location where
  credentials : Credentials
  host : Option Text
  portNumber : Option Nat
  path : UrlPath

/-- A place without credentials and numbers. -/
def Location.plain (host : Option Text) (path : UrlPath) : Location :=
  ⟨noCredentials, host, none, path⟩

/-! ## Reading -/

/-- What may be cut off the ends of a text without being missed. -/
def isPadding (c : Char) : Bool := c.toNat ≤ 0x20

/-- The text without padding at its ends, and without tabs and line breaks. -/
def clean (t : Text) : Text :=
  (Text.dropTrailing isPadding (Text.dropLeading isPadding t)).filter fun c =>
    c != '\t' && c != '\n' && c != '\r'

/-- What comes before and after the first occurrence of a character. -/
def cutAt (mark : Char) (t : Text) : Text × Option Text :=
  match t.span (· != mark) with
  | (before, _ :: after) => (before, some after)
  | (before, []) => (before, none)

/-- The place after a scheme of the web.  Any number of slashes may come before the host. -/
def webLocation? (usual : Nat) (t : Text) : Option Location := do
  let (authority, path) := (t.dropWhile (isSlash true)).span fun c => !isSlash true c
  let (credentials, rest) := cutCredentials authority
  let (host, number) := cutNumber rest
  return {
    credentials := credentialsOf (credentials.getD [])
    host := some (← Host.parse? host)
    portNumber := ← portNumber? (some usual) number
    path := .segments (segmentsOf true path) }

/-- The place after the scheme of files.  A path that starts with a drive belongs to no host; empty
segments at its start do not count. -/
def fileLocation (host : Text) (t : Text) : Location :=
  match segmentsOf true t with
  | [letter, mark] :: rest =>
    if isDrive [letter, mark] then .plain (some []) (.segments ([letter, ':'] :: rest))
    else .plain (some host) (.segments ([letter, mark] :: rest))
  | segments =>
    match segments.dropWhile List.isEmpty with
    | [] => .plain (some host) (.segments [[]])
    | segments => .plain (some host) (.segments segments)

/-- The place after the scheme of files.  Two slashes announce a host, unless a drive follows. -/
def fileLocation? (t : Text) : Option Location := do
  match t with
  | a :: b :: rest =>
    if isSlash true a && isSlash true b then
      let (name, path) := rest.span fun c => !isSlash true c
      if isDrive name then return fileLocation [] rest
      let host ← if name.isEmpty then some [] else Host.parse? name
      return fileLocation (if host = "localhost".toList then [] else host) path
    else return fileLocation [] t
  | _ => return fileLocation [] t

/-- The place after two slashes under another scheme, where the host may be missing.  A backslash ends
the number after the host. -/
def otherLocation? (authority path : Text) : Option Location := do
  let (given, rest) := cutCredentials authority
  let (host, number) := cutNumber rest
  let credentials := credentialsOf (given.getD [])
  if host.isEmpty && (number.isSome || given = some [] || credentials != noCredentials) then none
  let (number, path) := match number with
    | none => (none, path)
    | some t =>
      let (digits, more) := t.span (· != '\\')
      (some digits, more ++ path)
  return {
    credentials
    host := some (← Host.parseOther? host)
    portNumber := ← portNumber? none number
    path := .segments (segmentsOf false path) }

/-- The place after another scheme.  Two slashes announce a host. -/
def anyLocation? : Text → Option Location
  | '/' :: '/' :: rest =>
    let (authority, path) := rest.span (· != '/')
    otherLocation? authority path
  | '/' :: rest => some (.plain none (.segments (segmentsOf false ('/' :: rest))))
  | t => some (.plain none (.solid (Percent.encode isPrintable t)))

/-- The URL in a text. -/
def parse? (t : Text) : Option Url := do
  let (t, fragment) := cutAt '#' (clean t)
  let (t, query) := cutAt '?' t
  let (scheme, rest) ← scheme? t
  let usual := webSchemes.lookup scheme
  let isWeb := usual.isSome || scheme = fileScheme
  let place ←
    match usual with
    | some usual => webLocation? usual rest
    | none => if scheme = fileScheme then fileLocation? rest else anyLocation? rest
  return {
    scheme
    credentials := place.credentials
    host := place.host
    portNumber := place.portNumber
    path := place.path
    query := query.map (Percent.encode (keepInQuery isWeb))
    fragment := fragment.map (Percent.encode keepInFragment) }

/-! ## Credentials -/

/-- What a part of the credentials stands for, when that is text. -/
def spoken? (t : Text) : Option Text := Utf8.decode? (Percent.decode t)

/-- The URL without its credentials, which are told in other ways.  Those that are no text stay. -/
def withoutCredentials (u : Url) : Url :=
  match spoken? u.credentials.name, spoken? u.credentials.password with
  | some [], none | none, _ => u
  | _, _ => { u with credentials := noCredentials }

/-! ## Writing -/

/-- The written form of a name and a password. -/
def credentialsText (c : Credentials) : Text :=
  if c = noCredentials then []
  else c.name ++ (if c.password.isEmpty then [] else ':' :: c.password) ++ ['@']

/-- The written form of the host, with what stands around it. -/
def authorityText (u : Url) : Text :=
  match u.host with
  | none => []
  | some host =>
    "//".toList ++ credentialsText u.credentials ++ host ++
      match u.portNumber with
      | none => []
      | some n => ':' :: Text.decimal n

/-- The written form of the path. -/
def pathText (u : Url) : Text :=
  match u.path with
  | .solid t => t
  | .segments segments => segments.flatMap ('/' :: ·)

/-- A text after a mark, when there is one. -/
def marked (mark : Char) : Option Text → Text
  | none => []
  | some t => mark :: t

/-- The path and the query: what a server is asked for. -/
def target (u : Url) : Text := u.pathText ++ marked '?' u.query

/-- What keeps a path that starts with two slashes from being read as a host. -/
def guardText (u : Url) : Text :=
  if u.host.isNone && "//".toList.isPrefixOf u.pathText then "/.".toList else []

/-- The written form. -/
def toText (u : Url) : Text :=
  u.scheme ++ ':' :: u.authorityText ++ u.guardText ++ u.target ++ marked '#' u.fragment

end Url

end PinnedActions
