import SymbolAtlas.Editor.Session
import SymbolAtlas.Editor.Wire
import SymbolAtlas.Json.Reader
import SymbolAtlas.Launch

/-!
# The server

Reads messages from standard input and writes to standard output. A message is taken in against what
is known of the editor's answers and of the disk; as long as an answer is missing, it is asked for
and the message is taken in anew.
-/

namespace SymbolAtlas.Server

open Editor

/-! ### Looking at the disk -/

/-- The bytes of a file, if it can be read. -/
def readBytes? (path : String) : IO (Option (List UInt8)) := do
  try
    return some (← IO.FS.readBinFile path).toList
  catch _ => return none

/-- Names from the top of the tree after following the parts. -/
def absoluteNames (current : List Disk.Name) : List Disk.Part → List Disk.Name
  | [] => current
  | .root :: parts => absoluteNames [] parts
  | .here :: parts => absoluteNames current parts
  | .parent :: parts => absoluteNames current.dropLast parts
  | .name n :: parts => absoluteNames (current ++ [n]) parts

/-- The tree with a file at a path; the directories on the way are made. -/
def putFile (t : Disk.FileTree) (path : Disk.Path) (content : List UInt8) : Disk.FileTree :=
  let parts := path.parts
  let ways := (List.range parts.length).map fun n => absoluteNames t.current (parts.take n)
  let top := ways.foldl (fun top names => Disk.Node.empty.put names top) t.top
  { t with top := (Disk.Node.file content).put (absoluteNames t.current parts) top }

/-- The tree that holds nothing but the current directory. -/
def bareTree : IO Disk.FileTree := do
  let here := Disk.Path.ofString (← IO.currentDir).toString
  return .emptyAt (absoluteNames [] here.parts)

/-- Adds the file at a path to the tree, if it can be read. -/
def addFile (t : Disk.FileTree) (path : Disk.Path) : IO Disk.FileTree := do
  match ← readBytes? path.text with
  | some content => return putFile t path content
  | none => return t

/-- The names of files with ignore rules. -/
def ruleFiles : List String := [".ignore", ".gitignore", "exclude"]

/-- What lies at or below a path: directories, and files with a wanted name. -/
partial def readNode? (wanted : String → Bool) (path : String) : IO (Option Disk.Node) := do
  let here := (← IO.currentDir) / path
  if ← here.isDir then
    let mut entries := []
    for entry in ← here.readDir do
      let name := entry.fileName
      let kind := (← entry.path.symlinkMetadata).type
      if kind == .dir || kind == .file && wanted name then
        if let some node ← readNode? wanted (path ++ "/" ++ name) then
          entries := (Disk.Name.ofString name, node) :: entries
    return some (.directory entries)
  return (← readBytes? path).map .file

/-- Adds what lies at or below a folder, and the rules of the directories that hold it. -/
def addFolder (wanted : String → Bool) (t : Disk.FileTree) (root : Disk.Path) :
    IO Disk.FileTree := do
  let mut t := t
  let names := absoluteNames t.current root.parts
  if let some node ← readNode? wanted root.text then
    t := { t with top := node.put names t.top }
  for n in List.range names.length do
    let directory := Disk.Path.ofParts (.root :: (names.take n).map .name)
    for rules in [".ignore", ".gitignore", ".git/info/exclude"] do
      t ← addFile t (directory.child (Disk.Name.ofString rules))
  return t

/-- The documents that a message names. -/
def namedUris (m : Message) : List Uri :=
  let params := m.params.getD .null
  let items := ((params.field? "changes").bind Json.arr?).getD []
  (((params.field? "textDocument").toList ++ items).filterMap fun item =>
    (item.field? "uri").bind Reader.uri)

/-- The disk as far as a message may need it. -/
def treeFor (s : Session) (m : Message) : IO Disk.FileTree := do
  let bare ← bareTree
  match s.indexing.fileSource with
  | .client => return bare
  | .disk =>
    let wanted (name : String) : Bool := ruleFiles.contains name
      || s.indexing.extensions.any (Disk.Workspace.hasExtension (Disk.Name.ofString name))
    let tree ← s.roots.foldlM (addFolder wanted) bare
    ((namedUris m).filterMap Disk.Path.ofUri?).foldlM addFile tree

/-! ### Talking to the editor -/

/-- Writes a message. -/
def write (j : Json) : IO Unit := do
  let output ← IO.getStdout
  output.putStr (frame j.render)
  output.flush

/-- Reads a header and gives the length of the body. -/
partial def readHeader (length : Option Nat) : IO (Option Nat) := do
  let line ← (← IO.getStdin).getLine
  if line.isEmpty then return none
  else if line.toList.all (fun c => c == '\r' || c == '\n') then return length
  else readHeader ((contentLength? line).or length)

/-- Reads the given number of bytes. -/
partial def readBody (length : Nat) (read : List UInt8) : IO (List UInt8) := do
  if length = 0 then return read
  let bytes := (← (← IO.getStdin).read (USize.ofNat length)).toList
  if bytes.isEmpty then return read
  readBody (length - bytes.length) (read ++ bytes)

/-- The next thing that arrives; none when the input has ended. -/
partial def receive : IO (Option Incoming) := do
  match ← readHeader none with
  | none => return none
  | some length =>
    let body ← readBody length []
    match (Text.ofUtf8? body).bind fun cs => (Json.parse? (String.ofList cs)).bind
        Incoming.ofJson? with
    | some incoming => return some incoming
    | none => receive

/-- Waits for the answer to a request; messages that arrive meanwhile are kept. -/
partial def awaitReply (id : Nat) (waiting : List Message) :
    IO (Except String Json × List Message) := do
  match ← receive with
  | none => return (.error "connection closed", waiting)
  | some (.message m) => awaitReply id (waiting ++ [m])
  | some (.reply n answer) =>
    if n = id then return (answer, waiting) else awaitReply id waiting

/-- Takes a message in, asking the editor for the answers that it takes. -/
partial def exchange (s : Session) (tree : Disk.FileTree) (m : Message) (known : Known)
    (waiting : List Message) : IO (Session × List Message) := do
  let (response, after) := s.receive ⟨known.client, tree⟩ m
  match known.open? after.sent with
  | some (.request id method params) =>
    write (Sent.request id method params).toJson
    let (answer, waiting) ← awaitReply id waiting
    exchange s tree m ⟨known.answers ++ [(Known.key method params, answer)]⟩ waiting
  | _ =>
    let (sent, _, after) := after.takeOutput
    for message in sent do
      if let .notification .. := message then write message.toJson
    if let some j := response.bind Response.toJson? then write j
    return (after, waiting)

/-- Takes in one message after the other until the editor leaves. -/
partial def serve (s : Session) (time : Nat) (waiting : List Message) : IO Unit := do
  if s.phase = .over then return
  match waiting with
  | m :: waiting =>
    let now ← IO.monoMsNow
    let s := s.sleep (now - time)
    let (s, waiting) ← exchange s (← treeFor s m) m ⟨[]⟩ waiting
    serve s now waiting
  | [] => match ← receive with
    | none => return
    | some (.reply ..) => serve s time []
    | some (.message m) => serve s time [m]

/-- The tree with the file of settings, if one is named. -/
def settingsTree (l : Launch) : IO Disk.FileTree := do
  let bare ← bareTree
  match l.config with
  | none => return bare
  | some path =>
    let path := Disk.Path.ofString path
    (path :: (Settings.SettingsFile.withEnding? path).toList).foldlM addFile bare

/-- Starts the server with the given options. -/
def run (l : Launch) : IO UInt32 := do
  let tree ← settingsTree l
  match l.loader.bind fun loader => loader.load tree with
  | .error cause =>
    IO.eprintln ("invalid configuration: " ++ cause.message)
    return 1
  | .ok settings =>
    serve (.start settings) (← IO.monoMsNow) []
    return 0

end SymbolAtlas.Server

/-- The command line of the server. -/
def main (arguments : List String) : IO UInt32 := do
  match SymbolAtlas.Launch.ofArguments arguments with
  | .ok launch => SymbolAtlas.Server.run launch
  | .error cause =>
    IO.eprintln cause.message
    return 2
