import PinnedActions.Catalog.Basic
import PinnedActions.Http.Url

/-!
# A catalog on a network

A **client** knows the base address of an API and, when there is a token, how to say so.  Asked for a
path it makes a request, and what the network replies to that request is an answer of the catalog.

* `Client.create?` — a client; a token that cannot stand in a header is refused.
* `Client.request?` — the request for a path; an address that is not a URL of the web is refused.
* `Client.answer` — what a reply means.
* `Client.catalog` — all of this as a catalog.
-/

set_option autoImplicit false

namespace PinnedActions

/-- What is sent: the URL that is asked for, and the headers. -/
structure Request where
  url : Url
  headers : List (Text × Text)
deriving DecidableEq, Repr

/-- What comes back. -/
inductive Reply where
  /-- Nothing: the connection was refused, or broke off. -/
  | silence
  | response (status : Nat) (body : List UInt8)
deriving DecidableEq, Repr

/-- What a network replies to requests. -/
abbrev Network := Request → Reply

/-- A base address, and the token to show. -/
structure Client where
  base : Text
  token : Option Text
deriving DecidableEq, Repr

namespace Client

/-! ## Making a client -/

/-- Whether a character may stand in a header: a tab may, and no other control character. -/
def fitsHeader (c : Char) : Bool := c = '\t' || (0x20 ≤ c.toNat && c.toNat != 0x7F)

/-- The token in a text, blanks around it left out.  A blank text has none. -/
def usableToken (token : Text) : Option Text :=
  if Text.isBlankText token then none else some (Text.trim token)

/-- A client for a base address and perhaps a token. -/
def create? (base : Text) (token : Option Text) : Except Failure Client :=
  let base := Text.dropTrailing (· = '/') base
  match token.bind usableToken with
  | none => .ok ⟨base, none⟩
  | some t =>
    if t.all fitsHeader then .ok ⟨base, some t⟩
    else .error (.transport "invalid token: failed to parse header value".toList)

/-! ## Asking -/

/-- The address of a path: exactly one slash stands between it and the base address. -/
def address (c : Client) (path : Text) : Text :=
  c.base ++ '/' :: Text.dropLeading (· = '/') path

/-- The headers of every request. -/
def headers (c : Client) : List (Text × Text) :=
  [("accept".toList, "application/vnd.github+json".toList),
   ("user-agent".toList, "actpin/0.1.0".toList),
   ("x-github-api-version".toList, "2022-11-28".toList)] ++
  match c.token with
  | none => []
  | some t => [("authorization".toList, "Bearer ".toList ++ t)]

/-- The failure of a request that was not answered, with the reason. -/
def unanswered (address reason : Text) : Failure :=
  .transport ("GET ".toList ++ address ++ ": ".toList ++ reason)

/-- A reason with the URL that it is about. -/
def about (reason : Text) (u : Url) : Text :=
  reason ++ " for url (".toList ++ u.toText ++ [')']

/-- Whether a character may stand in the host of a request. -/
def fitsHost (c : Char) : Bool :=
  0x20 < c.toNat && c.toNat < 0x7F && !"\"%<>\\^`\x7b|\x7d".toList.contains c

/-- The greatest length of the URL of a request. -/
def urlLimit : Nat := 65534

/-- Whether requests can be made to a URL. -/
def isAskable (u : Url) : Bool :=
  (u.scheme = "http".toList || u.scheme = "https".toList) && (u.host.getD []).all fitsHost
    && u.toText.length ≤ urlLimit

/-- The request for a path. -/
def request? (c : Client) (path : Text) : Except Failure Request :=
  let address := c.address path
  match Url.parse? address with
  | none => .error (unanswered address "builder error".toList)
  | some u =>
    let u := u.withoutCredentials
    if isAskable u then .ok ⟨u, c.headers⟩
    else .error (unanswered address (about "builder error".toList u))

/-! ## Understanding the reply -/

/-- What a body says about a failure: the message in it, or all of it. -/
def complaint (body : Text) : Text :=
  match Json.parse body with
  | .error _ => body
  | .ok v => ((v.member? "message".toList).bind Json.text?).getD body

/-- What a reply to the request for a path means. -/
def answer (c : Client) (path : Text) (u : Url) : Reply → Answer
  | .silence =>
    .error (unanswered (c.address path) (about "error sending request".toList u))
  | .response status body =>
    let body := Utf8.decodeLossy body
    if status = 404 then .error (.notFound path)
    else if status < 200 ∨ 300 ≤ status then .error (.http status path (complaint body))
    else
      match Json.parse body with
      | .ok v => .ok v
      | .error fault => .error (.decode path (.malformed fault))

/-- The catalog that a client reaches on a network. -/
def catalog (c : Client) (network : Network) : Catalog := fun path =>
  match c.request? path with
  | .error f => .error f
  | .ok request => c.answer path request.url (network request)

/-- The requests for some paths, as far as they can be made. -/
def requests (c : Client) (paths : List Text) : List Request :=
  paths.filterMap fun path =>
    match c.request? path with
    | .ok request => some request
    | .error _ => none

end Client

end PinnedActions
