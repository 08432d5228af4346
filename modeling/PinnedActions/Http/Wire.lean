import PinnedActions.Http.Client
import PinnedActions.Text.Blank

/-!
# Messages on the wire

A request is sent as lines of text, and the reply comes back as lines of text with a body of bytes
after them.  Where the body ends is said by its length, by the lengths of its chunks, or by nothing
but the end of the connection.  A reply that breaks off before its end is no reply.

* `Request.bytes` — a request as it is sent.
* `Reply.ofBytes` — the reply in everything that came back over a connection.
-/

set_option autoImplicit false

namespace PinnedActions

namespace Wire

/-- What ends a line. -/
def lineBreak : Text := ['\r', '\n']

/-- What comes before and after the first line break. -/
def cutLine? : List UInt8 → Option (List UInt8 × List UInt8)
  | 13 :: 10 :: rest => some ([], rest)
  | b :: rest => (cutLine? rest).map fun (line, after) => (b :: line, after)
  | [] => none

/-- What follows a line break is shorter than all. -/
theorem length_cutLine? {bytes line after : List UInt8} (h : cutLine? bytes = some (line, after)) :
    after.length < bytes.length := by
  fun_induction cutLine? bytes generalizing line with
  | case1 rest =>
    simp only [Option.some.injEq, Prod.mk.injEq] at h
    obtain ⟨-, rfl⟩ := h
    simp only [List.length_cons]
    omega
  | case2 b rest _ ih =>
    obtain ⟨⟨l, a⟩, hcut, hpair⟩ := Option.map_eq_some_iff.1 h
    simp only [Prod.mk.injEq] at hpair
    obtain ⟨-, rfl⟩ := hpair
    have := ih hcut
    simp only [List.length_cons]
    omega
  | case3 => simp at h

/-- The lines up to the first empty one, and the bytes after it. -/
def cutHead? (bytes : List UInt8) : Option (List Text × List UInt8) :=
  match h : cutLine? bytes with
  | none => none
  | some ([], body) => some ([], body)
  | some (line, after) =>
    have := length_cutLine? h
    (cutHead? after).map fun (lines, body) => (Utf8.decodeLossy line :: lines, body)
termination_by bytes.length

/-- The status in the first line of a reply. -/
def status? (line : Text) : Option Nat :=
  match line.splitOn ' ' with
  | version :: code :: _ =>
    if "HTTP/1.".toList.isPrefixOf version then Text.number? 10 code else none
  | _ => none

/-- The name, in lowercase, and the value of a header. -/
def header? (line : Text) : Option (Text × Text) :=
  (Text.cut? [':'] line).map fun (name, value) => (name.map Text.asciiLower, Text.trim value)

/-- The chunks of a body one after the other, up to the empty one. -/
def chunks? (bytes : List UInt8) : Option (List UInt8) :=
  match h : cutLine? bytes with
  | none => none
  | some (line, after) =>
    have := length_cutLine? h
    match Text.number? 16 ((Utf8.decodeLossy line).takeWhile Text.isHexDigit) with
    | none => none
    | some 0 => some []
    | some n =>
      if after.length < n + 2 then none
      else (chunks? (after.drop (n + 2))).map (after.take n ++ ·)
termination_by bytes.length
decreasing_by simp only [List.length_drop]; omega

/-- The body of a reply with some headers. -/
def body? (headers : List (Text × Text)) (bytes : List UInt8) : Option (List UInt8) :=
  if (headers.lookup "transfer-encoding".toList).any (·.map Text.asciiLower = "chunked".toList) then
    chunks? bytes
  else
    match headers.lookup "content-length".toList with
    | none => some bytes
    | some length => do
      let n ← Text.number? 10 length
      if bytes.length < n then none else some (bytes.take n)

end Wire

/-- A request as it is sent.  The connection is to be closed after the reply. -/
def Request.bytes (r : Request) : List UInt8 :=
  let host := r.url.authorityText.drop 2
  let line (name value : Text) : Text := name ++ ": ".toList ++ value ++ Wire.lineBreak
  Utf8.encode
    ("GET ".toList ++ r.url.target ++ " HTTP/1.1".toList ++ Wire.lineBreak ++
      line "host".toList host ++ r.headers.flatMap (fun (name, value) => line name value) ++
      line "connection".toList "close".toList ++ Wire.lineBreak)

/-- The reply in everything that came back over a connection. -/
def Reply.ofBytes (bytes : List UInt8) : Reply :=
  let reply := do
    let (lines, rest) ← Wire.cutHead? bytes
    let status ← lines.head? >>= Wire.status?
    let body ← Wire.body? (lines.tail.filterMap Wire.header?) rest
    return Reply.response status body
  reply.getD .silence

end PinnedActions
