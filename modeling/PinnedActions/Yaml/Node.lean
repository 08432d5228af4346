import PinnedActions.Yaml.Token

/-!
# Nodes of a YAML document

A document is one node: a scalar, a sequence of nodes, or a mapping from nodes to nodes.
`Document.ofText?` reads a text that holds at most one document.

A node may be given a name by an anchor, and stand again wherever an alias has that name.  An alias
inside the node that it names stands for no node at all, and is kept as `circular`.
-/

set_option autoImplicit false

namespace PinnedActions

namespace Yaml

/-- A node. -/
inductive Node where
  | scalar (text : Text) (style : Style) (tag : Option Text)
  | sequence (items : List Node)
  | mapping (pairs : List (Node × Node))
  | circular

/-- A scalar that is not there. -/
def Node.nothing (tag : Option Text) : Node := .scalar [] .plain tag

/-- What a reader of nodes knows: the tokens left, the expansions of tag handles, the anchors seen so
far with a number for each, and the nodes of those that are complete. -/
structure Reader where
  tokens : List Token
  handles : List (Text × Text)
  anchors : List (Text × Nat)
  nodes : List (Nat × Node)

/-- A computation that reads nodes. -/
abbrev Reads (α : Type) := StateT Reader Option α

namespace Reads

/-- The next token. -/
def peek : Reads (Option Token) := do return (← get).tokens.head?

/-- Goes past the next token. -/
def skip : Reads Unit := modify fun r => { r with tokens := r.tokens.tail }

/-- Refuses the text. -/
def refuse {α : Type} : Reads α := StateT.lift none

/-- Goes past the next token if it is a given one, and says whether it was. -/
def accept (t : Token) : Reads Bool := do
  if (← peek) = some t then
    skip
    return true
  else return false

/-- Whether the next token is one of several, or there is none. -/
def nextIn (ts : List Token) : Reads Bool := do
  match ← peek with
  | none => return true
  | some t => return ts.contains t

/-! ## Anchors and tags -/

/-- The expansion of a tag. -/
def expandTag (handle suffix : Text) : Reads Text := do
  if handle.isEmpty then return suffix
  match (← get).handles.lookup handle with
  | some expansion => return expansion ++ suffix
  | none => refuse

/-- Notes an anchor whose node is not complete.  Gives its number. -/
def openAnchor (name : Text) : Reads Nat := do
  let r ← get
  let n := r.anchors.length
  set { r with anchors := (name, n) :: r.anchors }
  return n

/-- The node that an alias stands for. -/
def resolveAlias (name : Text) : Reads Node := do
  let r ← get
  match r.anchors.lookup name with
  | none => refuse
  | some n => return (r.nodes.lookup n).getD .circular

/-- Reads an anchor and a tag, in either order, as far as they are there. -/
def properties : Reads (Option Text × Option Text) := do
  match ← peek with
  | some (.anchor name) =>
    skip
    match ← peek with
    | some (.tag handle suffix) =>
      skip
      return (some name, some (← expandTag handle suffix))
    | _ => return (some name, none)
  | some (.tag handle suffix) =>
    skip
    match ← peek with
    | some (.anchor name) =>
      skip
      return (some name, some (← expandTag handle suffix))
    | _ => return (none, some (← expandTag handle suffix))
  | _ => return (none, none)

/-! ## Nodes -/

/-- A tag that a scalar keeps: an empty one and a lone exclamation mark say nothing. -/
def keptTag (tag : Option Text) : Option Text := tag.filter fun t => !t.isEmpty && t != ['!']

mutual

/-- Reads a node, within a number of steps.  Block collections may stand only where `block` says so,
and a sequence without a deeper indent only where `indentless` does. -/
def node : Nat → Bool → Bool → Reads Node
  | 0, _, _ => refuse
  | steps + 1, block, indentless => do
    if let some (.alias name) ← peek then
      skip
      return ← resolveAlias name
    let (anchor, tag) ← properties
    let number ← anchor.mapM openAnchor
    let n ← content steps block indentless (anchor.isSome || tag.isSome) tag
    match number with
    | some k => modify fun r => { r with nodes := (k, n) :: r.nodes }
    | none => pure ()
    return n

/-- Reads a node after its anchor and its tag.  It may be missing if it has one of them. -/
def content : Nat → Bool → Bool → Bool → Option Text → Reads Node
  | 0, _, _, _, _ => refuse
  | steps + 1, block, indentless, mayMiss, tag => do
    match ← peek with
    | some .blockEntry => if indentless then indentlessItems steps [] else missing mayMiss tag
    | some (.scalar text style) =>
      skip
      return .scalar text style (keptTag tag)
    | some .flowSequenceStart =>
      skip
      flowItems steps true []
    | some .flowMappingStart =>
      skip
      flowPairs steps true []
    | some .blockSequenceStart =>
      if block then
        skip
        blockItems steps []
      else missing mayMiss tag
    | some .blockMappingStart =>
      if block then
        skip
        blockPairs steps []
      else missing mayMiss tag
    | _ => missing mayMiss tag

/-- A node of which there is only an anchor or a tag. -/
def missing (mayMiss : Bool) (tag : Option Text) : Reads Node :=
  if mayMiss then return .nothing (keptTag tag) else refuse

/-- Reads a node, or nothing when the next token is one of several. -/
def nodeUnless : Nat → List Token → Bool → Bool → Reads Node
  | 0, _, _, _ => refuse
  | steps + 1, ts, block, indentless => do
    if ← nextIn ts then return .nothing none else node steps block indentless

/-- Reads the entries of a block sequence up to its end, after those already read. -/
def blockItems : Nat → List Node → Reads Node
  | 0, _ => refuse
  | steps + 1, done => do
    if ← accept .blockEntry then
      let n ← nodeUnless steps [.blockEntry, .blockEnd] true false
      blockItems steps (n :: done)
    else if ← accept .blockEnd then return .sequence done.reverse
    else refuse

/-- Reads the entries of a block sequence that is not indented, as long as there are any. -/
def indentlessItems : Nat → List Node → Reads Node
  | 0, _ => refuse
  | steps + 1, done => do
    if ← accept .blockEntry then
      let n ← nodeUnless steps [.blockEntry, .key, .value, .blockEnd] true false
      indentlessItems steps (n :: done)
    else return .sequence done.reverse

/-- Reads the pairs of a block mapping up to its end, after those already read. -/
def blockPairs : Nat → List (Node × Node) → Reads Node
  | 0, _ => refuse
  | steps + 1, done => do
    if ← accept .key then
      let k ← nodeUnless steps [.key, .value, .blockEnd] true true
      let v ← if ← accept .value then nodeUnless steps [.key, .value, .blockEnd] true true
        else pure (.nothing none)
      blockPairs steps ((k, v) :: done)
    else if ← accept .blockEnd then return .mapping done.reverse
    else refuse

/-- Reads the items of a flow sequence up to its end, after those already read. -/
def flowItems : Nat → Bool → List Node → Reads Node
  | 0, _, _ => refuse
  | steps + 1, first, done => do
    if ← accept .flowSequenceEnd then return .sequence done.reverse
    if !first then
      if !(← accept .flowEntry) then refuse
    if ← accept .flowSequenceEnd then return .sequence done.reverse
    if ← accept .key then
      let n ← flowPair steps
      flowItems steps false (n :: done)
    else
      let n ← node steps false false
      flowItems steps false (n :: done)

/-- Reads the one pair of a mapping that stands as an item of a flow sequence. -/
def flowPair : Nat → Reads Node
  | 0 => refuse
  | steps + 1 => do
    let k ←
      if ← nextIn [.value, .flowEntry, .flowSequenceEnd] then
        skip
        pure (.nothing none)
      else node steps false false
    let v ← if ← accept .value then nodeUnless steps [.flowEntry, .flowSequenceEnd] false false
      else pure (.nothing none)
    return .mapping [(k, v)]

/-- Reads the pairs of a flow mapping up to its end, after those already read. -/
def flowPairs : Nat → Bool → List (Node × Node) → Reads Node
  | 0, _, _ => refuse
  | steps + 1, first, done => do
    if ← accept .flowMappingEnd then return .mapping done.reverse
    if !first then
      if !(← accept .flowEntry) then refuse
    if ← accept .flowMappingEnd then return .mapping done.reverse
    if ← accept .key then
      let k ← nodeUnless steps [.value, .flowEntry, .flowMappingEnd] false false
      let v ← if ← accept .value then nodeUnless steps [.flowEntry, .flowMappingEnd] false false
        else pure (.nothing none)
      flowPairs steps false ((k, v) :: done)
    else
      let k ← node steps false false
      flowPairs steps false ((k, .nothing none) :: done)

end

/-! ## Documents -/

/-- Whether a token is a directive. -/
def isDirective : Token → Bool
  | .versionDirective .. | .tagDirective .. => true
  | _ => false

/-- Reads directives, within a number of steps.  A version may be given once and has to be 1.1 or
1.2; a handle may be given once. -/
def directives : Nat → Bool → List Text → Reads Unit
  | 0, _, _ => refuse
  | steps + 1, version, handles => do
    match ← peek with
    | some (.versionDirective major minor) =>
      if version || major != 1 || (minor != 1 && minor != 2) then refuse
      skip
      directives steps true handles
    | some (.tagDirective handle expansion) =>
      if handles.contains handle then refuse
      skip
      modify fun r => { r with handles := (handle, expansion) :: r.handles }
      directives steps version (handle :: handles)
    | _ => return ()

/-- Goes past the marks that end a document, within a number of steps. -/
def skipEnds : Nat → Reads Unit
  | 0 => return ()
  | steps + 1 => do if ← accept .documentEnd then skipEnds steps

/-- Reads the node of the only document; `none` when there is no document. -/
def document : Reads (Option Node) := do
  let size := (← get).tokens.length + 1
  match ← peek with
  | none => return none
  | some t =>
    let n ←
      if isDirective t || t = .documentStart then do
        directives size false []
        if !(← accept .documentStart) then refuse
        match ← peek with
        | some u =>
          if isDirective u || u = .documentStart || u = .documentEnd then pure (.nothing none)
          else node (4 * size) true false
        | none => pure (.nothing none)
      else node (4 * size) true false
    skipEnds size
    match ← peek with
    | none => return some n
    | some _ => refuse

end Reads

/-- The handles that every document knows. -/
def knownHandles : List (Text × Text) :=
  [(['!'], ['!']), (['!', '!'], "tag:yaml.org,2002:".toList)]

/-- The node of a text that holds at most one document.  The outer `none` stands for a text that is
not such, the inner one for a text without a document. -/
def document? (t : Text) : Option (Option Node) := do
  let tokens ← Token.ofText? t
  let (n, _) ← Reads.document.run ⟨tokens, knownHandles, [], []⟩
  return n

end Yaml

end PinnedActions
