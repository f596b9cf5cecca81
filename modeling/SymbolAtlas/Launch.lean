import SymbolAtlas.Settings.Loader

/-!
# Command-line options

The server takes a file with settings and, above it, the source of files.
-/

namespace SymbolAtlas

/-- The options that the server was started with. -/
structure Launch where
  config : Option String
  fileSource : Option String
  deriving DecidableEq, Repr, Inhabited

namespace Launch

/-- Why options are refused. -/
inductive UsageError where
  | unexpected (argument : String)
  | valueMissing (option : String)
  | valueInvalid (option value : String)
  | repeated (option : String)
  deriving DecidableEq, Repr

/-- The text of an error. -/
def UsageError.message : UsageError → String
  | .unexpected argument => "error: unexpected argument '" ++ argument ++ "' found"
  | .valueMissing option =>
    "error: a value is required for '" ++ option ++ "' but none was supplied"
  | .valueInvalid option value => "error: invalid value '" ++ value ++ "' for '" ++ option ++ "'"
  | .repeated option => "error: the argument '" ++ option ++ "' cannot be used multiple times"

/-- Sets the file with settings. -/
def setConfig (l : Launch) (path : String) : Except UsageError Launch :=
  if l.config.isSome then .error (.repeated "--config") else .ok { l with config := some path }

/-- Sets the source of files. -/
def setSource (l : Launch) (source : String) : Except UsageError Launch :=
  if l.fileSource.isSome then .error (.repeated "--file-source")
  else if source = "client" ∨ source = "disk" then .ok { l with fileSource := some source }
  else .error (.valueInvalid "--file-source" source)

/-- The rest of an argument after a label. -/
def after? (label argument : String) : Option String :=
  if label.toList.isPrefixOf argument.toList then
    some (String.ofList (argument.toList.drop label.toList.length))
  else none

/-- Reads options after those that are known. -/
def read (l : Launch) : List String → Except UsageError Launch
  | [] => .ok l
  | [argument] =>
    match after? "--config=" argument, after? "--file-source=" argument with
    | some path, _ => l.setConfig path
    | none, some source => l.setSource source
    | none, none =>
      if argument ∈ ["-c", "--config", "--file-source"] then .error (.valueMissing argument)
      else .error (.unexpected argument)
  | argument :: value :: rest =>
    if argument = "-c" ∨ argument = "--config" then do (← l.setConfig value).read rest
    else if argument = "--file-source" then do (← l.setSource value).read rest
    else match after? "--config=" argument, after? "--file-source=" argument with
      | some path, _ => do (← l.setConfig path).read (value :: rest)
      | none, some source => do (← l.setSource source).read (value :: rest)
      | none, none => .error (.unexpected argument)

/-- The options that arguments spell. -/
def ofArguments (arguments : List String) : Except UsageError Launch :=
  read ⟨none, none⟩ arguments

/-- What the settings are loaded from. -/
def loader (l : Launch) : Settings.Load Settings.Loader :=
  let files := match l.config with
    | some path => Settings.Loader.usual.withFile (.ofString path)
    | none => Settings.Loader.usual
  match l.fileSource with
  | some source => files.setOverride "indexing.file_source" (.str source)
  | none => .ok files

end Launch

end SymbolAtlas
