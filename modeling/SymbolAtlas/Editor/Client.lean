import SymbolAtlas.Editor.Record
import SymbolAtlas.Provider

/-!
# Files from the editor

The editor's extension knows the workspace better than the disk does: unsaved texts, exclusions,
remote files. It answers questions about files with objects keyed by identifiers.
-/

namespace SymbolAtlas.Editor

/-- How an editor answers requests of the server: with a value, or with the text of an error. -/
abbrev Client := (method : String) → (params : Json) → Except String Json

/-- The name of the request behind a question, and its parameters. -/
def callRequest : Call → String × Json
  | .files uris => ("goodEnoughScalaGetFiles", .obj [("uris", .arr (uris.map (.str ·.text)))])
  | .allFiles => ("goodEnoughScalaGetAllFiles", .null)
  | .relativePath uri => ("goodEnoughScalaGetRelPath", .str uri.text)

/-- The request for a text that tells editors apart. -/
def machineRequest : String := "goodEnoughScalaMachineId"

namespace Reader

/-- A file. -/
def file : Reader FileEntry := fun j => do
  let r ← Record.ofSize 3 j
  let u ← r.get 0 "uri" uri
  let path ← r.get 1 "relativePath" text
  some ⟨u, path, ← r.get 2 "contents" text⟩

/-- Files keyed by identifiers. They are listed in the order of their own identifiers. -/
def files : Reader (List FileEntry) := fun j => do
  let entries ← (← j.obj?).mapM fun field => do
    let key ← Uri.parse? field.1
    some (key, ← file field.2)
  let found := (entries.foldl (fun m e => m.insert e.1 e.2) (.empty : UriMap FileEntry)).values
  some (found.mergeSort fun a b => !decide (b.uri < a.uri))

end Reader

/-- Puts a question to the editor and reads the answer. -/
def Client.answer {α : Type} (client : Client) (call : Call) (read : Reader α) :
    Except ProviderError α :=
  let (method, params) := callRequest call
  match client method params with
  | .error message => .error (.request method message)
  | .ok value => match read value with
    | some a => .ok a
    | none => .error (.request method "unexpected answer")

/-- The provider that asks the editor. -/
def Client.provider (client : Client) : Provider where
  files uris := client.answer (.files uris) Reader.files
  allFiles := client.answer .allFiles Reader.files
  relativePath u := client.answer (.relativePath u) Reader.text

end SymbolAtlas.Editor
