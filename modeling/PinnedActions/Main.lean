import PinnedActions.CommandLine.Run
import PinnedActions.Http.Wire
import Std.Async.DNS
import Std.Async.TCP

/-!
# The program

Everything that is decided is decided by `Program.run`, which is a function.  Here the surroundings
are gathered for it, and its outcome is carried out.

* The disk is read before the run, as far as a project is concerned, and the files that the run saved
  are written after it.
* The network is asked between runs.  A run is made with the replies known so far; when it made a
  request whose reply is not known, that one request is sent and the run is made again.  A run depends
  on nothing but its surroundings, so it comes to the same request again, and goes on from there.
* No helper is asked for a token, and only plain connections are made; a request over a secure one
  stays without a reply.
* Names of files, arguments and values of variables come here as texts, so what is no text in them is
  lost before the run.
-/

set_option autoImplicit false

namespace PinnedActions

namespace Main

/-! ## Reading the disk -/

/-- The node at an entry of a directory.  A link is followed when that is wanted; below, none is. -/
partial def snapshot (followLink : Bool) (entry : IO.FS.DirEntry) : IO (Option Node) := do
  try
    let info ← if followLink then entry.path.metadata else entry.path.symlinkMetadata
    match info.type with
    | .dir =>
      let nodes ← (← entry.path.readDir).toList.filterMapM fun e => do
        return (← snapshot false e).map (Utf8.bytes e.fileName, ·)
      return some (.dir nodes)
    | .file => return some (.file (← IO.FS.readBinFile entry.path).data.toList 0o644)
    | .symlink => return some (.link [])
    | .other => return some (.other 0o644 none)
  catch _ => return none

/-- A path in the form in which the system takes it. -/
def toSystem (path : Bytes) : String := String.ofList (Path.shown path)

/-- The entry at an absolute path. -/
def entryAt (names : List Bytes) : IO IO.FS.DirEntry := do
  return ⟨← IO.currentDir, toSystem (Disk.absolute names)⟩

/-- The disk with what is in a directory as far as a project is concerned. -/
def lookInto (d : Disk) (names : List Bytes) : IO Disk := do
  let settingsNames := names ++ [Discovery.settingsDirectory]
  let marked := [Utf8.bytes ".git", Discovery.settingsDirectory]
  let d ← marked.foldlM (fun d name => do
    let isThere ← (← entryAt (names ++ [name])).path.isDir
    return if isThere then d.setNode (names ++ [name]) (.dir []) else d) d
  ["actpin.yaml", "workflows", "actions"].foldlM (fun d name => do
    let place := settingsNames ++ [Utf8.bytes name]
    match ← snapshot true (← entryAt place) with
    | some node => return d.setNode place node
    | none => return d) d

/-- The names in a path. -/
def namesIn (path : Bytes) : List Bytes :=
  (Path.parts path).filterMap fun
    | .named name => some name
    | _ => none

/-- The disk with the directory that a path leads to. -/
def lookAt (d : Disk) (path : Bytes) : IO Disk := do
  try
    let real := Utf8.bytes (← IO.FS.realPath (toSystem path)).toString
    let d := if (d.tree.get? (namesIn real)).isSome then d else d.setNode (namesIn real) (.dir [])
    let d ← lookInto d (namesIn real)
    if d.isDir path then return d
    else
      let start := if path.head? = some Path.slash then [] else d.current
      return d.setNode (start ++ namesIn path) (.link real)
  catch _ => return d

/-- The disk as far as a run with these arguments looks at it. -/
def readDisk (environment : Environment) (arguments : List Bytes) : IO Disk := do
  let current := namesIn (Utf8.bytes (← IO.currentDir).toString)
  let disk : Disk := ⟨Node.put (.dir []) current (.dir []), current⟩
  match Invocation.parse environment arguments with
  | .run { root := some path, .. } _ => lookAt disk path
  | .run { root := none, .. } _ =>
    (Disk.upwards current.reverse).foldlM (fun d names => lookInto d names.reverse) disk
  | _ => return disk

/-- The variables that matter. -/
def readEnvironment : IO Environment :=
  [Invocation.rootVariable, Invocation.apiUrlVariable, Invocation.tokenVariable,
    "GH_TOKEN".toList, "GITHUB_TOKEN".toList].filterMapM fun name => do
    return (← IO.getEnv (String.ofList name)).map fun value => (name, Utf8.bytes value)

/-! ## Asking the network -/

/-- Everything that comes back over a connection, after what came back before. -/
partial def receive (socket : Std.Async.TCP.Socket.Client) (before : ByteArray) : IO ByteArray := do
  match ← (socket.recv? 65536).block with
  | some part => receive socket (before ++ part)
  | none => return before

/-- The place with a number at an address. -/
def placeAt (number : UInt16) : Std.Net.IPAddr → Std.Net.SocketAddress
  | .v4 addr => .v4 ⟨addr, number⟩
  | .v6 addr => .v6 ⟨addr, number⟩

/-- Sends a request and waits for the reply. -/
def exchange (r : Request) : IO Reply := do
  if r.url.scheme ≠ "http".toList then return .silence
  try
    let host := (r.url.host.getD []).filter fun c => c != '[' && c != ']'
    let number := r.url.portNumber.getD 80
    let found ← (Std.Async.DNS.getAddrInfo (String.ofList host) (toString number)).block
    match found.toList with
    | [] => return .silence
    | address :: _ =>
      let socket ← Std.Async.TCP.Socket.Client.mk
      (socket.connect (placeAt number.toUInt16 address)).block
      (socket.send ⟨r.bytes.toArray⟩).block
      return Reply.ofBytes (← receive socket ByteArray.empty).data.toList
  catch _ => return .silence

/-- Runs until every request has its reply, and with more and more patience. -/
partial def settle (s : Surroundings) (known : List (Request × Reply)) (arguments : List Bytes) :
    IO Outcome := do
  let network : Network := fun r => (known.lookup r).getD .silence
  match Program.run { s with network } arguments with
  | none => settle { s with patience := 2 * s.patience } known arguments
  | some outcome =>
    match outcome.asked.find? fun r => (known.lookup r).isNone with
    | none => return outcome
    | some r => settle s ((r, ← exchange r) :: known) arguments

/-! ## Carrying out -/

/-- Writes the files that a run saved. -/
def writeSaved (o : Outcome) : IO Unit :=
  o.saved.forM fun path =>
    match o.disk.readBytes path with
    | .ok content => IO.FS.writeBinFile (toSystem path) ⟨content.toArray⟩
    | .error _ => return ()

/-- Runs the program with some arguments. -/
def execute (arguments : List Bytes) : IO UInt32 := do
  let environment ← readEnvironment
  let disk ← readDisk environment arguments
  let outcome ← settle
    { disk, environment, helper := none, network := fun _ => .silence, patience := 1024 }
    [] arguments
  writeSaved outcome
  IO.print (String.ofList outcome.output)
  IO.eprint (String.ofList outcome.remarks)
  return outcome.exitCode.toUInt32

end Main

end PinnedActions

/-- The program. -/
def main (arguments : List String) : IO UInt32 :=
  PinnedActions.Main.execute (arguments.map PinnedActions.Utf8.bytes)
