import LongPoll.Json
import LongPoll.Text.Digits
/-!
# The programming interface

The operations that the server offers: for each of them a method, a path, the parameters in path and
query, and the statuses it may be answered with. The same table finds the operation that a request
asks for and documents the interface.
-/

namespace LongPoll.Http

/-- A method that the server serves. -/
inductive Method where
  /-- Look something up. -/
  | get
  /-- Add something. -/
  | post
  /-- Set something. -/
  | put
  deriving DecidableEq, Repr

/-- The name of a method. -/
def Method.word : Method → String
  | get => "GET"
  | post => "POST"
  | put => "PUT"

/-- Whether the method serves requests with a method of that name. What can be looked up can also be
looked up without its content. -/
def Method.serves (m : Method) (name : String) : Bool :=
  name == m.word || (m == .get && name == "HEAD")

/-- A part of the path of an operation. -/
inductive Segment where
  /-- This very text. -/
  | literal (text : String)
  /-- Any text, under a name. -/
  | parameter (name : String)
  deriving DecidableEq, Repr

namespace Segment

/-- The texts that stand for the parameters of a path in a given one, if that has the form of the
path. No parameter stands for an empty text at the end. -/
def bind? : List Segment → List String → Option (List String)
  | [], [] => some []
  | literal t :: path, s :: given => if s = t then bind? path given else none
  | parameter _ :: path, s :: given =>
    if s.isEmpty && given.isEmpty then none else (bind? path given).map (s :: ·)
  | _, _ => none

/-- How a part of a path is shown. -/
def shown : Segment → String
  | literal t => t
  | parameter name => "\x7b" ++ name ++ "\x7d"

end Segment

/-- What the server can be asked to do. -/
inductive Operation where
  /-- Say that the server is there. -/
  | health
  /-- Say whether the storages are broken for good. -/
  | liveness
  /-- Say whether the storages can serve now. -/
  | readiness
  /-- Publish a message under a given name. -/
  | publish
  /-- Publish a message under a name that the server chooses. -/
  | publishUnnamed
  /-- Wait for the messages of a subscriber. -/
  | poll
  /-- Revoke a token. -/
  | revoke
  /-- Say whether a token is revoked. -/
  | isRevoked
  /-- Show the log filter. -/
  | showFilter
  /-- Replace the log filter. -/
  | setFilter
  deriving DecidableEq, Repr

namespace Operation

/-- All operations. -/
def all : List Operation :=
  [health, liveness, readiness, publish, publishUnnamed, poll, revoke, isRevoked, showFilter,
    setFilter]

/-- The method of an operation. -/
def method : Operation → Method
  | publish | revoke | setFilter => .put
  | publishUnnamed => .post
  | _ => .get

/-- The path of an operation. -/
def path : Operation → List Segment
  | health => [.literal "health"]
  | liveness => [.literal "probe", .literal "liveness"]
  | readiness => [.literal "probe", .literal "readiness"]
  | publish =>
    [.literal "channel", .parameter "channel_id", .literal "message", .parameter "message_id"]
  | publishUnnamed => [.literal "channel", .parameter "channel_id", .literal "message"]
  | poll =>
    [.literal "channel", .parameter "channel_id", .literal "subscription", .literal "polling",
      .parameter "subscriber_id"]
  | revoke | isRevoked => [.literal "admin", .literal "jwt", .literal "revoke"]
  | showFilter | setFilter => [.literal "admin", .literal "logging", .literal "filter"]

/-- The parameters in the query of an operation, and whether they have to be there. -/
def queryParameters : Operation → List (String × Bool)
  | poll => [("timeout", false), ("max", false)]
  | revoke => [("jti", true), ("exp", true)]
  | isRevoked => [("jti", true)]
  | _ => []

/-- The statuses that an operation may be answered with. -/
def statuses : Operation → List Nat
  | health => [200]
  | liveness | readiness => [200, 500]
  | publish | poll => [200, 400, 501]
  | publishUnnamed => [201, 400, 501]
  | revoke | isRevoked => [200, 401, 501]
  | showFilter => [200, 401]
  | setFilter => [200, 400, 401]

/-- The part of the interface that an operation belongs to. -/
inductive Group where
  /-- How the server is. -/
  | health
  /-- Publishing and polling. -/
  | channels
  /-- Administration, for which a token has to be shown. -/
  | admin
  deriving DecidableEq, Repr

/-- The name of a part of the interface. -/
def Group.word : Group → String
  | health => "health"
  | channels => "channels"
  | admin => "admin"

/-- The part of the interface that an operation belongs to. -/
def group : Operation → Group
  | health | liveness | readiness => .health
  | publish | publishUnnamed | poll => .channels
  | revoke | isRevoked | showFilter | setFilter => .admin

/-- The operations at a path, and what stands for their parameters. -/
def atPath (given : List String) : List (Operation × List String) :=
  all.filterMap fun o => (Segment.bind? o.path given).map (o, ·)

/-- The path of an operation as it is shown. -/
def shownPath (o : Operation) : String :=
  String.join (o.path.map fun s => "/" ++ s.shown)

/-- The parameters of an operation: the name of each, the place where it stands, and whether it has
to be there. -/
def parameters (o : Operation) : List (String × String × Bool) :=
  let inPath := o.path.filterMap fun
    | .literal _ => none
    | .parameter name => some (name, "path", true)
  inPath ++ o.queryParameters.map fun (name, needed) => (name, "query", needed)

end Operation

/-! ## Documentation -/

namespace Api

/-- The title of the interface. -/
def title : String := "pubpoll API"

/-- The version of the program. -/
def version : String := "0.1.0"

/-- The names of the records that requests and responses consist of. -/
def schemas : List String :=
  ["ApiErrorBody", "HealthResponse", "JtiQuery", "LogFilterBody", "MessageResponse", "PollQuery",
    "PollResponse", "ProbeResponse", "PublishResponse", "RevocationResponse", "RevokeQuery"]

/-- The documentation of one operation. -/
def operationJson (o : Operation) : Json :=
  let parameter : String × String × Bool → Json := fun (name, place, needed) =>
    .object [("name", .text name), ("in", .text place), ("required", .bool needed)]
  .object
    [("tags", .texts [o.group.word]), ("parameters", .array (o.parameters.map parameter)),
      ("responses", .object (o.statuses.map fun s =>
        (String.ofList (Text.decimal s), .object [("description", .text "")])))]

/-- The documentation of the operations with one path. -/
def pathJson (shown : String) : Json :=
  let operations := Operation.all.filter (·.shownPath == shown)
  .object (operations.map fun o =>
    (String.ofList (o.method.word.toList.map Char.toLower), operationJson o))

/-- The documentation of the interface as JSON. -/
def document : Json :=
  let paths := (Operation.all.map Operation.shownPath).eraseDups
  .object
    [("openapi", .text "3.0.3"),
      ("info", .object [("title", .text title), ("version", .text version)]),
      ("paths", .object (paths.map fun p => (p, pathJson p))),
      ("components", .object [("schemas", .object (schemas.map fun s =>
        (s, .object [("type", .text "object")])))])]

end Api

end LongPoll.Http
