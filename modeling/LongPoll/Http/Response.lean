import LongPoll.Broker
import LongPoll.Text.Utf8
/-!
# Responses

What the server answers over HTTP. A failure is answered with its text and a code only where it is
the fault of the client; what went wrong inside the server is logged and not disclosed.
-/

namespace LongPoll.Http

/-- What a response carries. -/
inductive Body where
  /-- Nothing. -/
  | empty
  /-- A JSON value. -/
  | json (value : Json)
  /-- A text for people. -/
  | prose (text : String)

/-- A response. -/
structure Response where
  /-- The status. -/
  status : Nat
  /-- The type of the content, if there is any. -/
  contentType : Option String
  /-- The content. -/
  body : Body

namespace Response

/-- A response without content. -/
def bare (status : Nat) : Response := ⟨status, none, .empty⟩

/-- A response that carries a JSON value. -/
def json (status : Nat) (value : Json) : Response :=
  ⟨status, some "application/json", .json value⟩

/-- A response that says why a request was not understood. -/
def prose (status : Nat) (text : String) : Response :=
  ⟨status, some "text/plain", .prose text⟩

/-- The response with its content left out. -/
def withoutBody (r : Response) : Response := { r with body := .empty }

end Response

/-- The status of a failure and the code that tells clients what kind it is. -/
def statusOf : Error → Nat × String
  | .invalidChannel _ => (400, "INVALID_CHANNEL")
  | .invalidId .. => (400, "INVALID_ID")
  | .invalidParameter _ => (400, "INVALID_PARAMETER")
  | .unauthorized _ => (401, "UNAUTHORIZED")
  | .unsupported _ => (501, "NOT_SUPPORTED")
  | _ => (500, "INTERNAL_ERROR")

/-- Whether a status says that the server is at fault. -/
def isServerFault (status : Nat) : Bool := 500 ≤ status && status < 600

/-- The response to a failure. -/
def failureResponse (e : Error) : Response :=
  let (status, code) := statusOf e
  let text := if isServerFault status then "internal server error" else e.message
  .json status (.object [("error", .text text), ("code", .text code)])

/-- Answer a failure, and log it if the server is at fault. -/
def fail (e : Error) (w : World) : World × Response :=
  let w := if isServerFault (statusOf e).1 then w.report [] (.requestFailed e.message) else w
  (w, failureResponse e)

/-- A message as it is handed out. Content that is no text is shown as far as it is. -/
def messageJson (m : Message) : Json :=
  .object [("messageId", .text m.id.text), ("content", .text (Text.lossy m.content))]

end LongPoll.Http
