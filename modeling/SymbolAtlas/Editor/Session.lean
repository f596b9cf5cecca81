import SymbolAtlas.Disk.Workspace
import SymbolAtlas.Editor.Client
import SymbolAtlas.Editor.Message
import SymbolAtlas.Editor.Parameters
import SymbolAtlas.Editor.View
import SymbolAtlas.Settings.Client

/-!
# Sessions

A session is the server's side of the talk with one editor. It starts with a greeting, in which the
editor names its folders; then requests are answered and news taken in, until the editor asks the
server to finish and then to leave. Requests at the wrong time are refused, news at the wrong time
is dropped.

What the server sends meanwhile and what it reports about its work is kept in the session until it
is taken out.
-/

namespace SymbolAtlas.Editor

/-- How far a session has come. -/
inductive Phase where
  /-- No greeting yet. -/
  | waiting
  | running
  /-- The editor has asked the server to finish. -/
  | finished
  /-- The editor has asked the server to leave. -/
  | over
  deriving DecidableEq, Repr

/-- What surrounds the server: the editor, and the files on disk. -/
structure World where
  client : Client
  tree : Disk.FileTree

/-- The state of a session. -/
structure Session where
  phase : Phase
  features : Features
  indexing : Indexing
  reporter : Reporter
  service : Service
  /-- The folders of the workspace; only used when files are read from disk. -/
  roots : List Disk.Path
  /-- The number of requests sent to the editor so far. -/
  requests : Nat
  /-- Messages to the editor, the oldest first. -/
  sent : List Sent
  /-- Reports that were passed on, the oldest first. -/
  traces : List Trace

namespace Session

/-- A session before the greeting. -/
def start (settings : Settings) : Session where
  phase := .waiting
  features := settings.features
  indexing := settings.indexing
  reporter := ⟨settings.features.analyticsEnabled, none⟩
  service := .start settings.indexing.debounceMs settings.indexing.justChangedMs
  roots := []
  requests := 0
  sent := []
  traces := []

/-! ### Sending -/

/-- Sends a notification. -/
def notify (s : Session) (method : String) (params : Json) : Session :=
  { s with sent := s.sent ++ [.notification method params] }

/-- Sends a request, whose answer is somebody else's business. -/
def send (s : Session) (method : String) (params : Json) : Session :=
  { s with requests := s.requests + 1, sent := s.sent ++ [.request s.requests method params] }

/-- Sends a request and gets the answer. -/
def ask (s : Session) (w : World) (method : String) (params : Json) :
    Except String Json × Session :=
  (w.client method params, s.send method params)

/-- Where the session gets files from. -/
def provider (s : Session) (w : World) : Provider :=
  match s.indexing.fileSource with
  | .client => w.client.provider
  | .disk => Disk.Workspace.provider ⟨w.tree, s.roots, s.indexing.extensions⟩

/-- Makes an entry of the service's journal known: questions about files go to the editor if files
come from there, and finished work is reported. -/
def publish (s : Session) : Note → Session
  | .asked call => match s.indexing.fileSource with
    | .client => s.send (callRequest call).1 (callRequest call).2
    | .disk => s
  | .finished work =>
    { s with traces := s.traces ++ (work.reports 0).filterMap s.reporter.trace? }

/-- The session with the service in a new state, whose journal is made known. -/
def withService (s : Session) (service : Service) : Session :=
  let (journal, service) := service.takeJournal
  journal.foldl publish { s with service }

/-! ### Settings -/

/-- Takes settings of the editor in. -/
def applySettings (s : Session) (settings : ClientSettings) : Session :=
  let features := settings.apply s.features
  { s with features, reporter := { s.reporter with enabled := features.analyticsEnabled } }

/-- What an answer to a request for settings says. -/
def pulledSettings? : Except String Json → Option ClientSettings
  | .ok (.arr []) => some .silent
  | .ok (.arr (value :: _)) => some (.ofSection value)
  | _ => none

/-- Asks the editor for its settings; an error changes nothing. -/
def pullSettings (s : Session) (w : World) : Session :=
  let (answer, s) := s.ask w "workspace/configuration"
    (.obj [("items", .arr [.obj [("section", .str ClientSettings.sectionName)]])])
  match pulledSettings? answer with
  | some settings => s.applySettings settings
  | none => s

/-- Takes in what the editor says about its settings; if that is nothing, it is asked. -/
def configure (s : Session) (w : World) (settings : Json) : Session :=
  let told := ClientSettings.ofNotification settings
  if told = .silent then s.pullSettings w else s.applySettings told

/-! ### The start of a session -/

/-- The pattern of the names of source files. -/
def watchPattern (extensions : List String) : String :=
  "**/*.\x7b" ++ ",".intercalate extensions ++ "\x7d"

/-- What the server wants to be told about. -/
def registrations (extensions : List String) : Json :=
  .obj [("registrations", .arr [
    .obj [("id", .str "goodenough-configuration"),
      ("method", .str "workspace/didChangeConfiguration")],
    .obj [("id", .str "goodenough-watched-files"),
      ("method", .str "workspace/didChangeWatchedFiles"),
      ("registerOptions", .obj [("watchers", .arr [
        .obj [("globPattern", .str (watchPattern extensions))]])])]])]

/-- Asks the editor for the text that tells it apart, on whose behalf work is reported. -/
def pullMachine (s : Session) (w : World) : Session :=
  let (answer, s) := s.ask w machineRequest .null
  match answer with
  | .ok (.str client) => { s with reporter := { s.reporter with client := some client } }
  | _ => s

/-- Shows a message to the user; errors have the number one and news the number three. -/
def log (s : Session) (level : Nat) (message : String) : Session :=
  s.notify "window/logMessage" (.obj [("type", .nat level), ("message", .str message)])

/-- Indexes the workspace and says how that went. -/
def indexWorkspace (s : Session) (w : World) : Session :=
  let (answer, service) := s.service.indexAll (s.provider w)
  let s := s.withService service
  match answer with
  | .ok ds => s.log 3 ("Indexed " ++ toString ds.length ++ " scala symbols")
  | .error cause => s.log 1 ("Failed to index workspace: " ++ cause.message)

/-- The editor is ready: the server makes itself known, asks for settings and indexes the
workspace. -/
def ready (s : Session) (w : World) : Session :=
  let s := (s.ask w "client/registerCapability" (registrations s.indexing.extensions)).2
  ((s.pullSettings w).pullMachine w).indexWorkspace w

/-- What the server can do. -/
def greeting : Json :=
  .obj [
    ("capabilities", .obj [
      ("textDocumentSync", .obj [("openClose", .bool true), ("change", .nat 1),
        ("save", .obj [("includeText", .bool true)])]),
      ("hoverProvider", .bool true),
      ("definitionProvider", .bool true),
      ("workspaceSymbolProvider", .bool true),
      ("codeActionProvider", .obj [("codeActionKinds", .arr [.str organizeKind])])]),
    ("serverInfo", .obj [("name", .str "goodenough-lsp"), ("version", .str "0.1.0")])]

/-- The folders that an editor has opened, or else its root. -/
def openedRoots (o : Opening) : List Disk.Path :=
  let folders := o.folders.filterMap Disk.Path.ofUri?
  if folders.isEmpty then o.rootUri.toList.filterMap Disk.Path.ofUri? else folders

/-! ### Requests and news -/

/-- Answers a question. -/
def answer (s : Session) (w : World) : Query → Except Refusal Json × Session
  | .definition u position =>
    let (found, service) := s.service.definition (s.provider w) u position
    (.ok (if found.isEmpty then .null else .arr (found.map location)), s.withService service)
  | .hover u position =>
    if s.features.hoverEnabled then
      let (found, service) := s.service.hover (s.provider w) u position
      let shown := match hoverText? found with
        | some text => .obj [("contents", .obj [("kind", .str "markdown"), ("value", .str text)])]
        | none => .null
      (.ok shown, s.withService service)
    else (.ok .null, s)
  | .symbols query =>
    let (found, service) := s.service.search query
    (.ok (.arr (found.map symbol)), s.withService service)
  | .actions u only =>
    if wantsOrganize only then
      let (edits, service) := s.service.organizeImports (s.provider w) u
      let actions := match organizeAction? u edits with
        | some action => .arr [action]
        | none => .null
      (.ok actions, s.withService service)
    else (.ok .null, s)
  | .unsupported => (.error .methodNotFound, s)

/-- Takes news in. -/
def learn (s : Session) (w : World) : News → Session
  | .ready => s.ready w
  | .opened u text => s.withService (s.service.opened (s.provider w) u text)
  | .changed u texts => match texts.getLast? with
    | some text => s.withService (s.service.changed (s.provider w) u text)
    | none => s
  | .saved u text => s.withService (s.service.saved (s.provider w) u text)
  | .configured settings => s.configure w settings
  | .watched changes => s.withService (s.service.watched (s.provider w) changes)
  | .unheeded => s

/-- The refusal of a message, if it is a request. -/
def refuse (m : Message) (why : Refusal) : Option Response := m.id.map fun id => .refused id why

/-- Why the session has no ear for a message that it would hear while running. -/
def untimely? (s : Session) : Option Refusal :=
  match s.phase with
  | .running => none
  | .waiting => some .notReady
  | .finished | .over => some .invalidRequest

/-- The greeting of the editor. It counts if the server can answer it. -/
def greet (s : Session) (m : Message) : Option Response × Session :=
  if s.phase = .waiting then
    match m.id with
    | none => (none, s)
    | some id => match m.params.bind Reader.opening with
      | none => (some (.refused id .invalidParams), s)
      | some opening =>
        (some (.result id greeting), { s with phase := .running, roots := openedRoots opening })
  else (refuse m .invalidRequest, s)

/-- The editor asks the server to finish. From then on the session is finished, even if the message
is malformed; what waits is indexed only if it is not. -/
def finish (s : Session) (m : Message) : Option Response × Session :=
  match s.untimely? with
  | some why => (refuse m why, s)
  | none =>
    let s := { s with phase := .finished }
    match m.id, m.params with
    | none, _ => (none, s)
    | some id, some _ => (some (.refused id .invalidParams), s)
    | some id, none => (some (.result id .null), s.withService s.service.shutdown)

/-- Takes in a request. -/
def request (s : Session) (w : World) (m : Message) (read : Reader Query) :
    Option Response × Session :=
  match s.untimely?, m.id with
  | some why, _ => (refuse m why, s)
  | none, none => (none, s)
  | none, some id => match m.params.bind read with
    | none => (some (.refused id .invalidParams), s)
    | some query => match s.answer w query with
      | (.ok value, s) => (some (.result id value), s)
      | (.error why, s) => (some (.refused id why), s)

/-- Takes in a notification. -/
def notification (s : Session) (w : World) (m : Message) (read : Reader News) :
    Option Response × Session :=
  match s.untimely?, m.id with
  | some why, _ => (refuse m why, s)
  | none, some id => (some (.refused id .invalidRequest), s)
  | none, none => match m.params.bind read with
    | none => (none, s)
    | some news => (none, s.learn w news)

/-- Takes in a message of an unknown method. Those that are up to each server may be passed over. -/
def unknown (s : Session) (m : Message) : Option Response × Session :=
  (if "$/".isPrefixOf m.method then none else refuse m .methodNotFound, s)

/-- Takes in a message. -/
def receive (s : Session) (w : World) (m : Message) : Option Response × Session :=
  if s.phase = .over then (some .closed, s)
  else if m.method = "initialize" then s.greet m
  else if m.method = "shutdown" then s.finish m
  else if m.method = "exit" then (none, { s with phase := .over })
  else if m.method = "$/cancelRequest" then (refuse m .invalidRequest, s)
  else match requestTable.lookup m.method, notificationTable.lookup m.method with
    | some read, _ => s.request w m read
    | none, some read => s.notification w m read
    | none, none => s.unknown m

/-- Does what is due. -/
def settle (s : Session) : Session := s.withService s.service.settle

/-- Lets time pass. -/
def sleep (s : Session) (ms : Nat) : Session := s.withService (s.service.sleep ms)

/-- What was sent and reported since the last time, and the session without it. -/
def takeOutput (s : Session) : List Sent × List Trace × Session :=
  (s.sent, s.traces, { s with sent := [], traces := [] })

end Session

end SymbolAtlas.Editor
