import SymbolAtlas.Editor.Client
import SymbolAtlas.Editor.Message
import SymbolAtlas.Json.Writer

/-!
# Messages on the wire

Each message travels as a JSON object behind a header that gives its length in bytes. An object with
a method is a message of its own; one without is the answer to a request of the server.
-/

namespace SymbolAtlas.Editor

/-- What arrives from an editor. -/
inductive Incoming where
  | message (m : Message)
  /-- The answer to the request with the given number. -/
  | reply (id : Nat) (answer : Except String Json)

/-- The identifier of a request. -/
def Reader.requestId : Reader RequestId
  | .int n => some (.number n)
  | .str s => some (.text s)
  | _ => none

/-- Reads what arrives. -/
def Incoming.ofJson? (j : Json) : Option Incoming :=
  match (j.field? "method").bind Json.str? with
  | some method =>
    some (.message ⟨method, j.field? "params", (j.field? "id").bind Reader.requestId⟩)
  | none => do
    let id ← (j.field? "id").bind (Json.natBelow? Number.words64)
    match j.field? "error" with
    | some error => some (.reply id (.error (((error.field? "message").bind Json.str?).getD "")))
    | none => some (.reply id (.ok ((j.field? "result").getD .null)))

/-- An object of the protocol. -/
def envelope (fields : List (String × Json)) : Json := .obj (("jsonrpc", .str "2.0") :: fields)

/-- The JSON form of an identifier. -/
def RequestId.toJson : RequestId → Json
  | .number n => .int n
  | .text s => .str s

/-- The JSON form of a response, if it is sent at all. -/
def Response.toJson? : Response → Option Json
  | .result id value => some (envelope [("id", id.toJson), ("result", value)])
  | .refused id why => some (envelope [("id", id.toJson),
      ("error", .obj [("code", .int why.code), ("message", .str why.message)])])
  | .closed => none

/-- The field for parameters, which are left out if they are null. -/
def paramsField (params : Json) : List (String × Json) :=
  if params.isNull then [] else [("params", params)]

/-- The JSON form of a message of the server. -/
def Sent.toJson : Sent → Json
  | .request id method params =>
    envelope ([("id", .nat id), ("method", .str method)] ++ paramsField params)
  | .notification method params => envelope (("method", .str method) :: paramsField params)

/-- A body behind its header. -/
def frame (body : String) : String :=
  "Content-Length: " ++ toString body.utf8ByteSize ++ "\r\n\r\n" ++ body

/-- The length that a line of a header gives. -/
def contentLength? (line : String) : Option Nat :=
  let cs := line.toList.map Char.toLower
  let label := "content-length:".toList
  if label.isPrefixOf cs then
    let digits := ((cs.drop label.length).dropWhile (· == ' ')).takeWhile Char.isDigit
    if digits.isEmpty then none
    else some (digits.foldl (fun n c => 10 * n + (c.toNat - 0x30)) 0)
  else none

/-! ### Answers that arrive later -/

/-- Answers of the editor to requests that were made while one message was taken in. -/
structure Known where
  answers : List (String × Except String Json)

namespace Known

/-- What tells requests apart while one message is taken in. -/
def key (method : String) (params : Json) : String := method ++ " " ++ params.render

/-- The editor as far as its answers are known. -/
def client (k : Known) : Client := fun method params =>
  ((k.answers.find? fun a => a.1 == key method params).map (·.2)).getD (.error "no answer yet")

/-- The first request whose answer is not known. -/
def open? (k : Known) (sent : List Sent) : Option Sent :=
  sent.find? fun
    | .request _ method params => !k.answers.any fun a => a.1 == key method params
    | .notification .. => false

end Known

end SymbolAtlas.Editor
