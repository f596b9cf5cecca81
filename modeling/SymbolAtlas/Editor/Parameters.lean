import SymbolAtlas.Declaration
import SymbolAtlas.Editor.Record
import SymbolAtlas.Service

/-!
# Parameters of messages

What an editor asks and tells, read from the parameters of its messages. Parameters that do not fit
the method are refused as a whole, also where the part that does not fit would not be used.
-/

namespace SymbolAtlas.Editor

namespace Reader

/-! ### Places in documents -/

/-- A position in a document. -/
def position : Reader Position := fun j => do
  let r ← Record.ofSize 2 j
  some ⟨← r.get 0 "line" word, ← r.get 1 "character" word⟩

/-- A range in a document. -/
def range : Reader (Position × Position) := fun j => do
  let r ← Record.ofSize 2 j
  some (← r.get 0 "start" position, ← r.get 1 "end" position)

/-- The identifier of a document. -/
def document : Reader Uri := fun j => do
  let r ← Record.ofSize 1 j
  r.get 0 "uri" uri

end Reader

namespace Record

/-- The document that a record is about. -/
def document (r : Record) : Option Uri := r.field "textDocument" Reader.document

/-- The place that a record is about. -/
def place (r : Record) : Option (Uri × Position) := do
  some (← r.document, ← r.field "position" Reader.position)

/-- The record has no ill-formed token for reports of progress. -/
def progress (r : Record) : Option Unit := do
  let _ ← r.field? "workDoneToken" Reader.token

/-- The record has no ill-formed token for reports of progress and of partial results. -/
def partialProgress (r : Record) : Option Unit := do
  r.progress
  let _ ← r.field? "partialResultToken" Reader.token

end Record

/-! ### Requests -/

/-- The folders that an editor has opened. -/
structure Opening where
  rootUri : Option Uri
  folders : List Uri
  deriving DecidableEq, Repr

/-- A question of an editor. -/
inductive Query where
  | definition (uri : Uri) (position : Position)
  | hover (uri : Uri) (position : Position)
  | symbols (query : String)
  /-- Actions for a document, of the given kinds if there are any. -/
  | actions (uri : Uri) (only : Option (List String))
  /-- A question that is well formed and not answered. -/
  | unsupported
  deriving DecidableEq, Repr

namespace Reader

/-- The parts of what an editor is capable of, none of which is used. -/
def capabilities : Reader Unit := fun j => do
  let r ← Record.ofObject j
  for part in ["workspace", "textDocument", "notebookDocument", "window", "general"] do
    let _ ← r.field? part Record.ofObject

/-- How much an editor wants to be told about the work of the server. -/
def traceLevel : Reader Unit := fun j => do
  let level ← j.str?
  if level ∈ ["off", "messages", "verbose"] then some () else none

/-- What an editor is called. -/
def clientInfo : Reader Unit := fun j => do
  let r ← Record.ofSize 2 j
  let _ ← r.get 0 "name" text
  let _ ← r.get? 1 "version" text

/-- A folder of the workspace. -/
def folder : Reader Uri := fun j => do
  let r ← Record.ofSize 2 j
  let u ← r.get 0 "uri" uri
  let _ ← r.get 1 "name" text
  some u

/-- What an editor says when it starts. -/
def opening : Reader Opening := fun j => do
  let r ← Record.ofSize 9 j
  let _ ← r.get? 0 "processId" word
  let _ ← r.get? 1 "rootPath" text
  let rootUri ← r.get? 2 "rootUri" uri
  r.get 4 "capabilities" capabilities
  let _ ← r.get? 5 "trace" traceLevel
  let folders ← r.get? 6 "workspaceFolders" (list folder)
  let _ ← r.get? 7 "clientInfo" clientInfo
  let _ ← r.get? 8 "locale" text
  some ⟨rootUri, folders.getD []⟩

/-- A message about a place in a document. -/
def diagnostic : Reader Unit := fun j => do
  let r ← Record.ofSize 9 j
  let _ ← r.get 0 "range" range
  let _ ← r.get? 1 "severity" integer
  let _ ← r.get? 2 "code" token
  let _ ← r.get? 4 "source" text
  let _ ← r.get 5 "message" text
  let _ ← r.get? 7 "tags" (list integer)

/-- The kinds of actions that are wanted. -/
def actionContext : Reader (Option (List String)) := fun j => do
  let r ← Record.ofSize 3 j
  let _ ← r.get 0 "diagnostics" (list diagnostic)
  let only ← r.get? 1 "only" (list text)
  let _ ← r.get? 2 "triggerKind" integer
  some only

/-- Asks for definitions. -/
def definition : Reader Query := fun j => do
  let r ← Record.ofObject j
  let (u, p) ← r.place
  r.partialProgress
  some (.definition u p)

/-- Asks for what to show over a term. -/
def hover : Reader Query := fun j => do
  let r ← Record.ofObject j
  let (u, p) ← r.place
  r.progress
  some (.hover u p)

/-- Asks for symbols of the workspace. -/
def symbols : Reader Query := fun j => do
  let r ← Record.ofObject j
  let query ← r.field "query" text
  r.partialProgress
  some (.symbols query)

/-- Asks for actions on a document. -/
def actions : Reader Query := fun j => do
  let r ← Record.ofObject j
  let u ← r.document
  let _ ← r.field "range" range
  let only ← r.field "context" actionContext
  r.partialProgress
  some (.actions u only)

/-! ### Requests that are not answered -/

/-- Asks about a place. -/
def atPlace (more : Record → Option Unit) : Reader Unit := fun j => do
  let r ← Record.ofObject j
  let _ ← r.place
  more r

/-- Asks about a document. -/
def onDocument (more : Record → Option Unit) : Reader Unit := fun j => do
  let r ← Record.ofObject j
  let _ ← r.document
  more r

/-- Asks about a range of a document. -/
def onRange (more : Record → Option Unit) : Reader Unit :=
  onDocument fun r => do
    let _ ← r.field "range" range
    more r

/-- How documents are to be formatted. -/
def formatting : Reader Unit := fun j => do
  let r ← Record.ofObject j
  let _ ← r.field "tabSize" word
  let _ ← r.field "insertSpaces" flag

/-- A record with a formatting. -/
def withFormatting (r : Record) : Option Unit := r.field "options" formatting

/-- An item of a hierarchy. -/
def hierarchyItem : Reader Unit := fun j => do
  let r ← Record.ofSize 8 j
  let _ ← r.get 0 "name" text
  let _ ← r.get 1 "kind" integer
  let _ ← r.get? 3 "detail" text
  let _ ← r.get 4 "uri" uri
  let _ ← r.get 5 "range" range
  let _ ← r.get 6 "selectionRange" range

/-- Asks about an item of a hierarchy. -/
def onItem : Reader Unit := fun j => do
  let r ← Record.ofObject j
  r.field "item" hierarchyItem
  r.partialProgress

/-- Asks about a list of files that are about to change; the names of their fields are given. -/
def onFiles (names : List String) : Reader Unit := fun j => do
  let r ← Record.ofSize 1 j
  let _ ← r.get 0 "files" (list fun file => do
    let fields ← Record.ofSize names.length file
    for (name, i) in names.zipIdx do
      let _ ← fields.get i name text)

/-- A record with a text in a field. -/
def withText (name : String) (r : Record) : Option Unit := do
  let _ ← r.field name text

/-- A number, with fraction or without. -/
def number : Reader Unit
  | .int _ | .float _ => some ()
  | _ => none

/-- A color. -/
def color : Reader Unit := fun j => do
  let r ← Record.ofSize 4 j
  for (name, i) in ["red", "green", "blue", "alpha"].zipIdx do
    r.get i name number

/-- A command. -/
def command : Reader Unit := fun j => do
  let r ← Record.ofSize 3 j
  let _ ← r.get 0 "title" text
  let _ ← r.get 1 "command" text
  let _ ← r.get? 2 "arguments" (list anything)

/-- The requests that are read and not answered. -/
def unsupported : List (String × Reader Unit) := [
  ("textDocument/willSaveWaitUntil", fun j => do
    let r ← Record.ofSize 2 j
    let _ ← r.get 0 "textDocument" document
    let _ ← r.get 1 "reason" integer),
  ("textDocument/declaration", atPlace Record.partialProgress),
  ("textDocument/typeDefinition", atPlace Record.partialProgress),
  ("textDocument/implementation", atPlace Record.partialProgress),
  ("textDocument/references", atPlace fun r => do
    let _ ← r.field "context" fun j => do
      let context ← Record.ofSize 1 j
      context.get 0 "includeDeclaration" flag
    r.partialProgress),
  ("textDocument/prepareCallHierarchy", atPlace Record.progress),
  ("callHierarchy/incomingCalls", onItem),
  ("callHierarchy/outgoingCalls", onItem),
  ("textDocument/prepareTypeHierarchy", atPlace Record.progress),
  ("typeHierarchy/supertypes", onItem),
  ("typeHierarchy/subtypes", onItem),
  ("textDocument/documentHighlight", atPlace Record.partialProgress),
  ("textDocument/documentLink", onDocument Record.partialProgress),
  ("documentLink/resolve", fun j => do
    let r ← Record.ofSize 4 j
    let _ ← r.get 0 "range" range
    let _ ← r.get? 1 "target" uri
    let _ ← r.get? 2 "tooltip" text),
  ("textDocument/codeLens", onDocument Record.partialProgress),
  ("codeLens/resolve", fun j => do
    let r ← Record.ofSize 3 j
    let _ ← r.get 0 "range" range
    let _ ← r.get? 1 "command" command),
  ("textDocument/foldingRange", onDocument Record.partialProgress),
  ("textDocument/selectionRange", onDocument fun r => do
    let _ ← r.field "positions" (list position)
    r.partialProgress),
  ("textDocument/documentSymbol", onDocument Record.partialProgress),
  ("textDocument/semanticTokens/full", onDocument Record.partialProgress),
  ("textDocument/semanticTokens/full/delta", onDocument fun r => do
    withText "previousResultId" r
    r.partialProgress),
  ("textDocument/semanticTokens/range", onRange Record.partialProgress),
  ("textDocument/inlineValue", onRange fun r => do
    let _ ← r.field "context" fun j => do
      let context ← Record.ofSize 2 j
      let _ ← context.get 0 "frameId" integer
      context.get 1 "stoppedLocation" range
    r.progress),
  ("textDocument/inlayHint", onRange Record.progress),
  ("inlayHint/resolve", fun j => do
    let r ← Record.ofSize 8 j
    let _ ← r.get 0 "position" position
    let _ ← r.get 1 "label" anything),
  ("textDocument/moniker", atPlace Record.partialProgress),
  ("textDocument/completion", atPlace fun r => do
    let _ ← r.field? "context" fun j => do
      let context ← Record.ofSize 2 j
      let _ ← context.get 0 "triggerKind" integer
      context.get? 1 "triggerCharacter" text
    r.partialProgress),
  ("completionItem/resolve", fun j => do
    let r ← Record.ofObject j
    withText "label" r),
  ("textDocument/diagnostic", onDocument fun r => do
    let _ ← r.field? "identifier" text
    let _ ← r.field? "previousResultId" text
    r.partialProgress),
  ("workspace/diagnostic", fun j => do
    let r ← Record.ofObject j
    let _ ← r.field? "identifier" text
    let _ ← r.field "previousResultIds" (list fun known => do
      let result ← Record.ofSize 2 known
      let _ ← result.get 0 "uri" uri
      result.get 1 "value" text)
    r.partialProgress),
  ("textDocument/signatureHelp", atPlace fun r => do
    let _ ← r.field? "context" fun j => do
      let context ← Record.ofSize 4 j
      let _ ← context.get 0 "triggerKind" integer
      let _ ← context.get? 1 "triggerCharacter" text
      context.get 2 "isRetrigger" flag
    r.progress),
  ("codeAction/resolve", fun j => do
    let r ← Record.ofObject j
    withText "title" r),
  ("textDocument/documentColor", onDocument Record.partialProgress),
  ("textDocument/colorPresentation", onRange fun r => do
    r.field "color" color
    r.partialProgress),
  ("textDocument/formatting", onDocument fun r => do
    withFormatting r
    r.progress),
  ("textDocument/rangeFormatting", onRange fun r => do
    withFormatting r
    r.progress),
  ("textDocument/onTypeFormatting", atPlace fun r => do
    withText "ch" r
    withFormatting r),
  ("textDocument/rename", atPlace fun r => do
    withText "newName" r
    r.progress),
  ("textDocument/prepareRename", fun j => do
    let r ← Record.ofSize 2 j
    let _ ← r.get 0 "textDocument" document
    let _ ← r.get 1 "position" position),
  ("textDocument/linkedEditingRange", atPlace Record.progress),
  ("workspaceSymbol/resolve", fun j => do
    let r ← Record.ofObject j
    withText "name" r
    let _ ← r.field "kind" integer
    let _ ← r.field "location" anything),
  ("workspace/willCreateFiles", onFiles ["uri"]),
  ("workspace/willRenameFiles", onFiles ["oldUri", "newUri"]),
  ("workspace/willDeleteFiles", onFiles ["uri"]),
  ("workspace/executeCommand", fun j => do
    let r ← Record.ofObject j
    withText "command" r
    match r.value? 0 "arguments" with
      | none => pure ()
      | some (.arr _) => pure ()
      | some _ => none
    r.progress)]

end Reader

/-- The requests that an editor can make while the server runs, by method. -/
def requestTable : List (String × Reader Query) :=
  [("textDocument/definition", Reader.definition), ("textDocument/hover", Reader.hover),
    ("workspace/symbol", Reader.symbols), ("textDocument/codeAction", Reader.actions)]
  ++ Reader.unsupported.map fun (method, read) => (method, fun j => (read j).map fun _ =>
    .unsupported)

/-! ### Notifications -/

/-- News from an editor. -/
inductive News where
  /-- The editor is ready for requests. -/
  | ready
  | opened (uri : Uri) (text : String)
  /-- The text of a document changed, in steps; each step gives the whole text. -/
  | changed (uri : Uri) (texts : List String)
  | saved (uri : Uri) (text : Option String)
  | configured (settings : Json)
  | watched (changes : List (Uri × Change))
  /-- News that nobody heeds. -/
  | unheeded

namespace Reader

/-- The editor is ready. -/
def ready : Reader News := fun j => do
  let _ ← Record.ofSize 0 j
  some .ready

/-- A document was opened. -/
def opened : Reader News := fun j => do
  let r ← Record.ofSize 1 j
  let item ← r.get 0 "textDocument" (Record.ofSize 4)
  let u ← item.get 0 "uri" uri
  let _ ← item.get 1 "languageId" text
  let _ ← item.get 2 "version" integer
  some (.opened u (← item.get 3 "text" text))

/-- A step of an edit. -/
def edit : Reader String := fun j => do
  let r ← Record.ofSize 3 j
  let _ ← r.get? 0 "range" range
  let _ ← r.get? 1 "rangeLength" word
  r.get 2 "text" text

/-- A document was edited. -/
def changed : Reader News := fun j => do
  let r ← Record.ofSize 2 j
  let item ← r.get 0 "textDocument" (Record.ofSize 2)
  let u ← item.get 0 "uri" uri
  let _ ← item.get 1 "version" integer
  some (.changed u (← r.get 1 "contentChanges" (list edit)))

/-- A document was saved. -/
def saved : Reader News := fun j => do
  let r ← Record.ofSize 2 j
  let u ← r.get 0 "textDocument" document
  some (.saved u (← r.get? 1 "text" text))

/-- Settings changed. -/
def configured : Reader News := fun j => do
  let r ← Record.ofSize 1 j
  some (.configured (← r.get 0 "settings" anything))

/-- What happened to a file; numbers without a meaning stand for nothing. -/
def change? (number : Int) : Option Change :=
  if number = 1 then some .created
  else if number = 2 then some .changed
  else if number = 3 then some .deleted
  else none

/-- A change of a file. -/
def fileEvent : Reader (Uri × Option Change) := fun j => do
  let r ← Record.ofSize 2 j
  some (← r.get 0 "uri" uri, change? (← r.get 1 "type" integer))

/-- Files changed on disk. -/
def watched : Reader News := fun j => do
  let r ← Record.ofSize 1 j
  let events ← r.get 0 "changes" (list fileEvent)
  some (.watched (events.filterMap fun e => e.2.map fun change => (e.1, change)))

end Reader

/-- The notifications that an editor can send while the server runs, by method. -/
def notificationTable : List (String × Reader News) :=
  [("initialized", Reader.ready), ("textDocument/didOpen", Reader.opened),
    ("textDocument/didChange", Reader.changed), ("textDocument/didSave", Reader.saved),
    ("workspace/didChangeConfiguration", Reader.configured),
    ("workspace/didChangeWatchedFiles", Reader.watched)]
  ++ ["textDocument/willSave", "textDocument/didClose", "workspace/didChangeWorkspaceFolders",
    "workspace/didCreateFiles", "workspace/didRenameFiles", "workspace/didDeleteFiles"].map
    fun method => (method, fun _ => some .unheeded)

end SymbolAtlas.Editor
