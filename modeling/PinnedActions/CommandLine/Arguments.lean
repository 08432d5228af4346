import PinnedActions.Text.Utf8

/-!
# Arguments

A command line is a sequence of arguments.  Some stand for **options**: a word after two dashes, or
letters after one.  Options that every command knows may stand before the command as well as after
it; an option after the command wins over the same one before it, and both win over the environment.
An option may stand once before the command and once after it.

Arguments and values of variables are bytes.  A root directory may be any but none; everything else
that means something has to be a text.

Arguments are read from left to right, and what stops the reading first decides: a demand for help,
a demand for the version of the program, or a misuse.

* `Grammar.read` — the options and the words at one place, before or after the command.
* `Invocation.parse` — what a command line asks for, in an environment.
-/

set_option autoImplicit false

namespace PinnedActions

/-- The variables of the environment. -/
abbrev Environment := List (Text × Bytes)

/-- What is to be done. -/
inductive Command where
  | verify
  | fix
  | upgradeAll
  /-- The repository that an argument names, perhaps to a version. -/
  | upgrade (argument : Text) (version : Option Text)
  | updateAll
  | update (argument : Text)
deriving DecidableEq, Repr

/-- What every command can be told. -/
structure Options where
  root : Option Bytes
  json : Bool
  apiUrl : Option Text
  token : Option Text
deriving DecidableEq, Repr

/-- What a command line asks for. -/
inductive Invocation where
  | help
  | version
  | misuse
  | run (options : Options) (command : Command)
deriving DecidableEq, Repr

/-! ## Options -/

/-- What an option means. -/
inductive Mark where
  | help
  | version
  | json
  | verbose
  | all
  | root
  | apiUrl
  | token
  /-- The version that a repository is to be moved to. -/
  | release
deriving DecidableEq, Repr

/-- Whether an option has a value. -/
def Mark.hasValue : Mark → Bool
  | root | apiUrl | token | release => true
  | help | version | json | verbose | all => false

/-- Whether an option can have a value: a root directory has to have a name, and the value of any other
option is a text. -/
def Mark.accepts (m : Mark) (value : Bytes) : Bool :=
  match m with
  | root => !value.isEmpty
  | _ => (Utf8.decode? value).isSome

/-- The options and the words that were read at one place. -/
structure Given where
  marks : List (Mark × Bytes)
  words : List Text
deriving DecidableEq, Repr

namespace Given

/-- Nothing. -/
def nothing : Given := ⟨[], []⟩

/-- The value of an option. -/
def value? (g : Given) (m : Mark) : Option Bytes := g.marks.lookup m

/-- Whether an option was given. -/
def has (g : Given) (m : Mark) : Bool := (g.value? m).isSome

/-- One more option.  None may be given twice. -/
def addMark (g : Given) (m : Mark) (value : Bytes) : Except Invocation Given :=
  match m with
  | .help => .error .help
  | .version => .error .version
  | m =>
    if g.has m || !m.accepts value then .error .misuse
    else .ok { g with marks := (m, value) :: g.marks }

end Given

/-! ## Reading one place -/

/-- What stands in front of an option. -/
def dash : UInt8 := 0x2D

/-- What stands between an option and its value, when they are one argument. -/
def equals : UInt8 := 0x3D

/-- What an argument looks like. -/
inductive Shape where
  /-- Two dashes: everything after them is a word. -/
  | wordsFollow
  | long (body : Bytes)
  | short (letters : Bytes)
  | word

/-- The shape of an argument. -/
def Shape.of (argument : Bytes) : Shape :=
  match [dash, dash].isPrefixOf? argument with
  | some [] => .wordsFollow
  | some body => .long body
  | none =>
    match argument with
    | first :: c :: letters => if first = dash then .short (c :: letters) else .word
    | _ => .word

/-- Which options there are at a place, and how many words. -/
structure Grammar where
  long : List (Bytes × Mark)
  short : List (Char × Mark)
  words : Nat

namespace Grammar

/-- One more word, if there is room for it. -/
def addWord (grammar : Grammar) (g : Given) (word : Bytes) : Except Invocation Given :=
  match Utf8.decode? word with
  | none => .error .misuse
  | some word =>
    if g.words.length < grammar.words then .ok { g with words := g.words ++ [word] }
    else .error .misuse

/-- One letter after a dash.  No such option has a value. -/
def addLetter (grammar : Grammar) (g : Given) (c : UInt8) : Except Invocation Given :=
  match grammar.short.lookup (Char.ofNat c.toNat) with
  | some m => if m.hasValue then .error .misuse else g.addMark m []
  | none => .error .misuse

/-- Whether an argument cannot be the value of the option before it. -/
def startsOption (argument : Bytes) : Bool := argument.head? = some dash && argument != [dash]

/-- The name of a long option, and the value that follows an equals sign. -/
def splitValue (body : Bytes) : Bytes × Option Bytes :=
  match body.span (· != equals) with
  | (name, _ :: value) => (name, some value)
  | (name, []) => (name, none)

/-- Reads arguments to their end, or, where no words are expected, to the first word.  Gives what
was read and what is left.  After two dashes alone everything is a word. -/
def read (grammar : Grammar) : List Bytes → Given → Except Invocation (Given × List Bytes)
  | [], g => .ok (g, [])
  | argument :: rest, g =>
    match Shape.of argument with
    | .wordsFollow => do
      let g ← rest.foldlM grammar.addWord g
      return (g, [])
    | .long body =>
      match splitValue body with
      | (name, value) =>
        match grammar.long.lookup name, value with
        | none, _ => .error .misuse
        | some m, some v =>
          if m.hasValue then do read grammar rest (← g.addMark m v) else .error .misuse
        | some m, none =>
          if m.hasValue then
            match rest with
            | [] => .error .misuse
            | v :: rest =>
              if startsOption v then .error .misuse else do read grammar rest (← g.addMark m v)
          else do read grammar rest (← g.addMark m [])
    | .short letters => do read grammar rest (← letters.foldlM grammar.addLetter g)
    | .word =>
      if grammar.words = 0 then .ok (g, argument :: rest)
      else do read grammar rest (← grammar.addWord g argument)

end Grammar

/-! ## The places -/

namespace Invocation

/-- The long options that every command knows. -/
def commonLong : List (Bytes × Mark) :=
  [(Utf8.bytes "help", .help), (Utf8.bytes "json", .json), (Utf8.bytes "verbose", .verbose),
   (Utf8.bytes "root", .root), (Utf8.bytes "api-url", .apiUrl), (Utf8.bytes "token", .token)]

/-- The short options that every command knows. -/
def commonShort : List (Char × Mark) := [('h', .help), ('j', .json), ('v', .verbose)]

/-- What may stand before the command. -/
def outer : Grammar :=
  ⟨(Utf8.bytes "version", .version) :: commonLong, ('V', .version) :: commonShort, 0⟩

/-- What may stand after `verify` and `fix`. -/
def plain : Grammar := ⟨commonLong, commonShort, 0⟩

/-- What may stand after `update`. -/
def selective : Grammar := ⟨(Utf8.bytes "all", .all) :: commonLong, commonShort, 1⟩

/-- What may stand after `upgrade`. -/
def versioned : Grammar :=
  ⟨(Utf8.bytes "version", .release) :: (Utf8.bytes "all", .all) :: commonLong, commonShort, 1⟩

/-! ## The command -/

/-- The words for commands, with what may stand after them. -/
def commands : List (Bytes × Grammar) :=
  [(Utf8.bytes "verify", plain), (Utf8.bytes "fix", plain), (Utf8.bytes "upgrade", versioned),
   (Utf8.bytes "update", selective)]

/-- The command that a word and what stands after it say.  An operation is aimed at one repository or
at all, never at both, and a version goes with one repository. -/
def command? (word : Bytes) (g : Given) : Option Command :=
  if word = Utf8.bytes "verify" then some .verify
  else if word = Utf8.bytes "fix" then some .fix
  else if word = Utf8.bytes "upgrade" then
    match g.words, g.has .all, g.value? .release with
    | [], true, none => some .upgradeAll
    | [argument], false, release => some (.upgrade argument (release.bind Utf8.decode?))
    | _, _, _ => none
  else
    match g.words, g.has .all with
    | [], true => some .updateAll
    | [argument], false => some (.update argument)
    | _, _ => none

/-! ## The environment -/

/-- The variable for the root directory. -/
def rootVariable : Text := "ACTPIN_ROOT".toList

/-- The variable for the base address. -/
def apiUrlVariable : Text := "ACTPIN_API_URL".toList

/-- The variable for the token. -/
def tokenVariable : Text := "ACTPIN_TOKEN".toList

/-- The options that are also in the environment, with their variables. -/
def inEnvironment : List (Mark × Text) :=
  [(.root, rootVariable), (.apiUrl, apiUrlVariable), (.token, tokenVariable)]

/-- Whether a variable is looked at whose value its option cannot have.  A variable is not looked at
when its option is given both before and after the command. -/
def isMisled (environment : Environment) (before after : Given) : Bool :=
  inEnvironment.any fun (m, name) =>
    (environment.lookup name).any (!m.accepts ·) && !(before.has m && after.has m)

/-- The options given after the command, before it, or in the environment, in this order. -/
def options (environment : Environment) (before after : Given) : Options :=
  let value (m : Mark) (name : Text) :=
    after.value? m <|> before.value? m <|> environment.lookup name
  { root := value .root rootVariable
    json := after.has .json || before.has .json
    apiUrl := (value .apiUrl apiUrlVariable).bind Utf8.decode?
    token := (value .token tokenVariable).bind Utf8.decode? }

/-! ## The whole command line -/

/-- What a demand for help with some words gets. -/
def helpOn : List Bytes → Invocation
  | [] => .help
  | [word] => if word = Utf8.bytes "help" || (commands.lookup word).isSome then .help else .misuse
  | _ => .misuse

/-- What the arguments from the command on ask for. -/
def afterOptions (environment : Environment) (before : Given) :
    List Bytes → Except Invocation Invocation
  | [] => .error .misuse
  | word :: rest =>
    if word = Utf8.bytes "help" then .ok (helpOn rest)
    else
      match commands.lookup word with
      | none => .error .misuse
      | some grammar => do
        let (after, left) ← grammar.read rest .nothing
        match left, command? word after with
        | [], some command =>
          if isMisled environment before after then .error .misuse
          else return .run (options environment before after) command
        | _, _ => .error .misuse

/-- What a command line asks for. -/
def parse (environment : Environment) (arguments : List Bytes) : Invocation :=
  let result := do
    let (before, rest) ← outer.read arguments .nothing
    afterOptions environment before rest
  match result with
  | .ok invocation => invocation
  | .error invocation => invocation

end Invocation

end PinnedActions
