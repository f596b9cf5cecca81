import SymbolAtlas.Json

/-!
# Messages

An editor and the server exchange requests, which are answered, and notifications, which are not.
-/

namespace SymbolAtlas.Editor

/-- What an editor names a request by. -/
inductive RequestId where
  | number (n : Int)
  | text (s : String)
  deriving DecidableEq, Repr

/-- A message of an editor. It is a request if it has an identifier. -/
structure Message where
  method : String
  params : Option Json
  id : Option RequestId

/-- Why a request is refused. -/
inductive Refusal where
  | notReady
  | invalidRequest
  | methodNotFound
  | invalidParams
  deriving DecidableEq, Repr

/-- The number of a refusal. -/
def Refusal.code : Refusal → Int
  | .notReady => -32002
  | .invalidRequest => -32600
  | .methodNotFound => -32601
  | .invalidParams => -32602

/-- The text of a refusal. -/
def Refusal.message : Refusal → String
  | .notReady => "Server not initialized"
  | .invalidRequest => "Invalid request"
  | .methodNotFound => "Method not found"
  | .invalidParams => "Invalid params"

/-- What an editor gets back for a message. -/
inductive Response where
  | result (id : RequestId) (value : Json)
  | refused (id : RequestId) (why : Refusal)
  /-- The session is over. -/
  | closed

/-- A message of the server; requests are numbered. -/
inductive Sent where
  | request (id : Nat) (method : String) (params : Json)
  | notification (method : String) (params : Json)

end SymbolAtlas.Editor
