import LongPoll.Settings.Channels
import LongPoll.Settings.Log
import LongPoll.Settings.Storages
import LongPoll.Yaml.Printer
import LongPoll.Yaml.Tree
/-!
# Settings of the server

All settings of a server, as they are read from a YAML text, completed, overridden from the command
line, checked, and written back.
-/

namespace LongPoll

/-- The settings of the HTTP interface. -/
structure HttpOptions where
  /-- The address to listen on. -/
  listen : String
  /-- The port to listen on. -/
  port : Nat
  /-- The path that all others stand under. -/
  pathPrefix : String
  /-- The longest time that a request may wait for messages. -/
  maxWait : Duration
  deriving DecidableEq

/-- The settings of a server. -/
structure ServerOptions where
  /-- The HTTP interface. -/
  http : HttpOptions
  /-- The tokens that administrators may show. Without any there is no administration. -/
  adminTokens : List String
  /-- The log. -/
  log : LogOptions
  /-- The channels. -/
  channels : List ChannelRule
  /-- The storages. -/
  storages : StoragesOptions
  deriving DecidableEq

/-- What the command line says about settings. -/
structure Overrides where
  /-- The port to listen on. -/
  port : Option Nat
  /-- The address to listen on. -/
  listen : Option String
  /-- Whether to log for debugging. -/
  debug : Bool
  deriving DecidableEq

/-- No overrides. -/
def Overrides.none : Overrides := ⟨.none, .none, false⟩

/-- Why settings were not accepted. -/
inductive SettingsError where
  /-- The text holds a tab character. -/
  | tab
  /-- The text is not a YAML document with settings. -/
  | malformed
  /-- The path prefix does not begin with a slash. -/
  | relativePrefix (pathPrefix : String)
  /-- The path prefix holds characters that have a meaning in routes. -/
  | parameterPrefix (pathPrefix : String)
  /-- The storages or channels are not valid. -/
  | invalid (e : Error)
  /-- The file cannot be read. -/
  | unreadable (path : String)
  /-- The settings in a file, or the standard ones, are not accepted. -/
  | within (path : Option String) (e : SettingsError)

namespace SettingsError

/-- The texts that say what is wrong, from the outermost to the innermost. -/
def chain : SettingsError → List String
  | tab =>
    ["Configuration file could not contain tab character (0x09) because YAML forbids it, " ++
      "use space to indent"]
  | malformed => ["failed to parse configuration", "malformed document"]
  | relativePrefix p => ["http.pathPrefix " ++ Text.quoted p ++ " must start with '/'"]
  | parameterPrefix p =>
    ["http.pathPrefix " ++ Text.quoted p ++ " must not contain path parameters"]
  | invalid e => [e.message]
  | unreadable path => ["failed to read configuration file " ++ path, "unreadable file"]
  | within (some path) e => ("invalid configuration in " ++ path) :: e.chain
  | within none e => "invalid default configuration" :: e.chain

end SettingsError

namespace HttpOptions

/-- The settings of the HTTP interface if none are given. -/
def default : HttpOptions := ⟨"127.0.0.1", 3000, "", Duration.seconds 30⟩

/-- Read the settings of the HTTP interface. -/
def ofDocument? (d : Document) : Option HttpOptions := do
  let fields ← d.fields? ["listen", "port", "pathPrefix", "longPollingMaxTimeout"]
  let listen ← fields.getD? "listen" Document.text? default.listen
  let port ← fields.getD? "port" (Document.nat? Word.values16) default.port
  let pathPrefix ← fields.getD? "pathPrefix" Document.text? default.pathPrefix
  let maxWait ← fields.getD? "longPollingMaxTimeout" Document.duration? default.maxWait
  some ⟨listen, port, pathPrefix, maxWait⟩

/-- The settings of the HTTP interface as JSON. -/
def toJson (o : HttpOptions) : Json :=
  .object
    [("listen", .text o.listen), ("port", .count o.port), ("pathPrefix", .text o.pathPrefix),
      ("longPollingMaxTimeout", .text o.maxWait.toText)]

/-- Check the path prefix. -/
def validate (o : HttpOptions) : Except SettingsError Unit :=
  if o.pathPrefix ≠ "" ∧ o.pathPrefix.toList.head? ≠ some '/' then
    .error (.relativePrefix o.pathPrefix)
  else if o.pathPrefix.toList.any fun c => c == ':' || c == '*' || c == '\x7b' || c == '\x7d' then
    .error (.parameterPrefix o.pathPrefix)
  else .ok ()

end HttpOptions

namespace ServerOptions

/-- The settings of a server if none are given, before they are completed. -/
def default : ServerOptions := ⟨.default, [], .default, [], []⟩

/-- Read the tokens of administrators. -/
def adminTokens? (d : Document) : Option (List String) := do
  let fields ← d.fields? ["auth"]
  fields.getD? "auth" auth? []
where
  /-- Read the settings of authentication. -/
  auth? (d : Document) : Option (List String) := do
    let fields ← d.fields? ["bearerTokens"]
    fields.getD? "bearerTokens" (Document.list? Document.text?) []

/-- Read the settings of a server. -/
def ofDocument? (d : Document) : Option ServerOptions := do
  let fields ← d.fields? ["http", "admin", "logging", "channels", "storages"]
  let http ← fields.getD? "http" HttpOptions.ofDocument? default.http
  let adminTokens ← fields.getD? "admin" adminTokens? default.adminTokens
  let log ← fields.getD? "logging" LogOptions.ofDocument? default.log
  let channels ← fields.getD? "channels" ChannelRule.listOfDocument? default.channels
  let storages ← fields.getD? "storages" StoragesOptions.ofDocument? default.storages
  some ⟨http, adminTokens, log, channels, storages⟩

/-- The settings of a server as JSON. -/
def toJson (o : ServerOptions) : Json :=
  .object
    [("http", o.http.toJson),
      ("admin", .object [("auth", .object [("bearerTokens", .texts o.adminTokens)])]),
      ("logging", o.log.toJson), ("channels", ChannelRule.listToJson o.channels),
      ("storages", StoragesOptions.toJson o.storages)]

/-- The settings completed: no slashes at the end of the path prefix, and a rule and a storage where
none are given. -/
def complete (o : ServerOptions) : ServerOptions :=
  let pathPrefix := String.ofList (Text.dropWhileEnd (· == '/') o.http.pathPrefix.toList)
  { o with
    http := { o.http with pathPrefix := pathPrefix }
    channels := if o.channels.isEmpty then [.catchAll] else o.channels
    storages := o.storages.orDefault }

/-- The settings with what the command line says. -/
def override (o : ServerOptions) (given : Overrides) : ServerOptions :=
  { o with
    http := { o.http with
      port := given.port.getD o.http.port
      listen := given.listen.getD o.http.listen }
    log := if given.debug then { o.log with filter := LogOptions.debugFilter } else o.log }

/-- Check the settings: first the path prefix, then the storages, then the channels. -/
def validate (o : ServerOptions) : Except SettingsError Unit := do
  o.http.validate
  (StoragesOptions.validate o.storages).mapError .invalid
  match Catalogue.ofRules o.channels with
  | .ok _ => .ok ()
  | .error e => .error (.invalid e)

/-- Read the text of settings without completing them. A blank text gives none. -/
def read (text : String) : Except SettingsError ServerOptions :=
  if text.toList.contains '\t' then .error .tab
  else if (Text.trim text.toList).isEmpty then .ok default
  else
    match (Document.ofYaml? text).bind ofDocument? with
    | some o => .ok o
    | none => .error .malformed

/-- Read the text of settings, complete them, override them, and check them. -/
def parse (text : String) (given : Overrides) : Except SettingsError ServerOptions := do
  let o ← read text
  let o := o.complete.override given
  o.validate
  .ok o

/-- The settings as a YAML text. -/
def dump (o : ServerOptions) : String := Yaml.render o.toJson

/-- A file with settings: its path, and its content if it can be read as text. -/
structure File where
  /-- The path. -/
  path : String
  /-- The content. -/
  content : Option String

/-- Load the settings in a file, or the standard ones if there is no file. -/
def load (file : Option File) (given : Overrides) : Except SettingsError ServerOptions :=
  match file with
  | none => (parse "" given).mapError (.within none)
  | some ⟨path, none⟩ => .error (.unreadable path)
  | some ⟨path, some content⟩ => (parse content given).mapError (.within (some path))

end ServerOptions

end LongPoll
