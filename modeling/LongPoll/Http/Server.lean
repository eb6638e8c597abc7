import LongPoll.Broker
import LongPoll.Http.Credential
import LongPoll.Http.FilterBody
import LongPoll.Http.MediaType
import LongPoll.Http.Pages
import LongPoll.Http.Query
import LongPoll.Parameter
import LongPoll.Settings.Server
/-!
# Servers

A server offers the operations of a broker over HTTP, under a path prefix, and beside them the log
filter and the documentation. It answers a request at once or when the storages have answered.
-/

namespace LongPoll.Http

/-- A server. The log filter is that of the world. -/
structure Server where
  /-- The broker that does the work. -/
  broker : Broker
  /-- The tokens that administrators may show. -/
  adminTokens : List String
  /-- The longest time that a request may wait for messages. -/
  maxWait : Duration
  /-- The path that the interface stands under. -/
  pathPrefix : String

/-- The greatest size of what may come with a request, in octets. -/
def maxBodySize : Nat := 2 * 1024 * 1024

/-- The number of messages that a poll hands out if it does not say how many. -/
def defaultPollMax : Nat := 64

/-! ## Answers -/

/-- Answer at once. -/
def answered (r : Response) (w : World) : World × Job Response := (w, .done r)

/-- Answer with a failure at once. -/
def refused (e : Error) (w : World) : World × Job Response :=
  let (w, r) := fail e w
  (w, .done r)

/-- Go on with a value if there is one. -/
def checked {α : Type} (x : Except Error α) (next : α → World → World × Job Response) (w : World) :
    World × Job Response :=
  match x with
  | .ok a => next a w
  | .error e => refused e w

/-- Answer when an operation has ended. -/
def responding {α : Type} (p : World × Job (Except Error α)) (f : α → Response) :
    World × Job Response :=
  (p.1, p.2.andThen fun result w =>
    match result with
    | .ok a => (w, f a)
    | .error e => fail e w)

/-- The answer to a request that is too large. -/
def tooLarge : Response := .prose 413 "the body is too large"

/-- The answer to a request whose parameters cannot be read. -/
def unreadable : Response := .prose 400 "the parameters cannot be read"

/-- The names of a channel and a message in it. -/
def receipt (channel : ChannelId) (message : MessageId) : Json :=
  .object [("channelId", .text channel.text), ("messageId", .text message.text)]

/-- What is said about a token. -/
def revocationJson (jti : Jti) (revoked : Bool) : Json :=
  .object [("jti", .text jti.text), ("revoked", .bool revoked)]

/-- The answer to a probe. -/
def probeResponse (reply : StorageReply) : Response :=
  .json 200 (.object [("status", .text "ok"), ("detail", reply.probeDetail)])

/-- The log filter in force as JSON. -/
def filterJson (w : World) : Json := .object [("filter", .text w.filter.text)]

namespace Server

/-! ## Operations -/

/-- Publish a message under a given name. -/
def publish (s : Server) (channel message : String) (r : Request) :
    World → World × Job Response :=
  if maxBodySize < r.body.size then answered tooLarge
  else
    checked (Id.ofText .channel channel) fun channel =>
    checked (Id.ofText .message message) fun id w =>
      responding (s.broker.publish ⟨channel, id, r.body⟩ w) fun _ => .json 200 (receipt channel id)

/-- Publish a message under a name that the broker chooses. -/
def publishUnnamed (s : Server) (channel : String) (r : Request) : World → World × Job Response :=
  if maxBodySize < r.body.size then answered tooLarge
  else
    checked (Id.ofText .channel channel) fun channel w =>
      responding (s.broker.publishUnnamed channel r.body w) fun id => .json 201 (receipt channel id)

/-- How many messages a poll may hand out, and how long it may wait. -/
def pollTerms (s : Server) (q : PollQuery) : Except Error (Nat × Duration) := do
  let timeout ← match q.timeout with
    | some text => Duration.parse text
    | none => .ok s.maxWait
  let max := q.max.getD defaultPollMax
  if max = 0 then .error (.invalidParameter "max must be greater than zero")
  else .ok (max, timeout.min s.maxWait)

/-- Wait for the messages of a subscriber. -/
def poll (s : Server) (channel subscriber : String) (r : Request) : World → World × Job Response :=
  match PollQuery.ofQuery? (.ofRequest r) with
  | none => answered unreadable
  | some q =>
    checked (Id.ofText .channel channel) fun channel =>
    checked (Id.ofText .subscriber subscriber) fun subscriber =>
    checked (s.pollTerms q) fun (max, wait) w =>
      responding (s.broker.poll ⟨channel, subscriber⟩ max wait w) fun reply =>
        .json 200 <| .object
          [("channelId", .text channel.text),
            ("messages", .array (reply.delivered.map messageJson))]

/-- Revoke a token. -/
def revoke (s : Server) (r : Request) : World → World × Job Response :=
  match RevokeQuery.ofQuery? (.ofRequest r) with
  | none => answered unreadable
  | some q =>
    checked (Id.ofText .jti q.jti) fun jti =>
    checked (Timestamp.ofExpClaim q.exp) fun exp w =>
      responding (s.broker.revoke jti exp w) fun _ => .json 200 (revocationJson jti true)

/-- Say whether a token is revoked. -/
def isRevoked (s : Server) (r : Request) : World → World × Job Response :=
  match (Query.ofRequest r).required? "jti" with
  | none => answered unreadable
  | some jti =>
    checked (Id.ofText .jti jti) fun jti w =>
      responding (s.broker.isRevoked jti w) fun reply =>
        .json 200 (revocationJson jti reply.isRevoked)

/-- Show the log filter. -/
def showFilter (w : World) : World × Job Response := answered (.json 200 (filterJson w)) w

/-- Replace the log filter by the one in the body. -/
def setFilter (r : Request) : World → World × Job Response :=
  if !r.announcesJson then answered (.prose 415 "the body has to be JSON")
  else if maxBodySize < r.body.size then answered tooLarge
  else
    match FilterBody.read r.body with
    | .error .malformed => answered (.prose 400 "the body is not JSON")
    | .error .misshapen => answered (.prose 422 "the body is not of the right shape")
    | .ok text =>
      checked (LogFilter.parse text) fun filter w =>
        showFilter ((w.replaceFilter filter).report [] (.filterReplaced text))

/-- Carry an operation out, with what stands for the parameters in its path. -/
def perform (s : Server) (o : Operation) (arguments : List String) (r : Request) :
    World → World × Job Response :=
  match o, arguments with
  | .health, _ =>
    answered <| .json 200 <|
      .object [("status", .text "healthy"), ("version", .text Api.version)]
  | .liveness, _ => fun w => responding (s.broker.liveness w) probeResponse
  | .readiness, _ => fun w => responding (s.broker.readiness w) probeResponse
  | .publish, [channel, message] => s.publish channel message r
  | .publishUnnamed, [channel] => s.publishUnnamed channel r
  | .poll, [channel, subscriber] => s.poll channel subscriber r
  | .revoke, _ => s.revoke r
  | .isRevoked, _ => s.isRevoked r
  | .showFilter, _ => showFilter
  | .setFilter, _ => setFilter r
  -- no path gives an operation other parameters than those above
  | _, _ => answered unreadable

/-! ## Requests -/

/-- The text that a part of a path stands for. -/
def segmentText? (s : String) : Option String :=
  Text.strict? ⟨(Text.unescape s.toUTF8.toList).toArray⟩

/-- The part of a path under the path prefix. -/
def pathUnder? (s : Server) (path : String) : Option String :=
  let stem := s.pathPrefix.toList
  if stem.isPrefixOf path.toList then some (String.ofList (path.toList.drop stem.length)) else none

/-- The operations at a path, and what stands for their parameters, as it is written. -/
def operationsAt (s : Server) (path : String) : List (Operation × List String) :=
  match (s.pathUnder? path).map fun p => (pieces '/' p.toList).map String.ofList with
  | some ("" :: segments) => Operation.atPath segments
  | _ => []

/-- The target of a request for administration, as it is reported: without what stands before the
administration's own part of the path. -/
def adminTarget (s : Server) (r : Request) : String :=
  String.ofList (r.target.toList.drop (s.pathPrefix ++ "/admin").length)

/-- Carry out that one of the operations at the path that has the right method, if there is one. -/
def choose (s : Server) (found : List (Operation × List String)) (r : Request) :
    World → World × Job Response :=
  match found.find? (·.1.method.serves r.method) with
  | none => answered (.bare 405)
  | some (o, arguments) =>
    match arguments.mapM segmentText? with
    | some texts => s.perform o texts r
    | none => answered unreadable

/-- Go on if the request shows a token of an administrator. -/
def guarded (s : Server) (r : Request) (next : World → World × Job Response) (w : World) :
    World × Job Response :=
  match admission s.adminTokens r.headers with
  | .closed => refused (.unauthorized "admin API is disabled") w
  | .rejected =>
    refused (.unauthorized "invalid admin token") (w.report [] (.adminRejected (s.adminTarget r)))
  | .granted => next w

/-- Answer a request, content included. -/
def answer (s : Server) (r : Request) : World → World × Job Response :=
  match s.operationsAt r.path with
  | [] => answered (Pages.answer r)
  | found =>
    if found.any (·.1.group = .admin) then s.guarded r (s.choose found r) else s.choose found r

/-- Handle a request. The answer to a `HEAD` request comes without its content. -/
def handle (s : Server) (r : Request) (w : World) : World × Job Response :=
  let (w, job) := s.answer r w
  if r.method = "HEAD" then (w, job.andThen fun response w => (w, response.withoutBody))
  else (w, job)

/-! ## Start -/

/-- Start a server with the given settings and log filter in a world of its own, unless its channels
or storages cannot be set up. -/
def start (o : ServerOptions) (filter : LogFilter) (clock : Timestamp) :
    World × Except Error Server :=
  match Catalogue.ofRules o.channels with
  | .error e => (World.start clock ⟨.uniform Duration.zero, false, 0, none⟩ filter, .error e)
  | .ok catalogue =>
    let directory : Directory := ⟨.catalogue catalogue, false, 0, some (.start clock)⟩
    match Storage.configured o.storages (World.start clock directory filter) with
    | (w, .error e) => (w, .error e)
    | (w, .ok storage) =>
      let (w, broker) := Broker.start storage w
      (w, .ok ⟨broker, o.adminTokens, o.http.maxWait, o.http.pathPrefix⟩)

end Server

end LongPoll.Http
