import LongPoll.Channel
import LongPoll.Pattern.Parser
/-!
# Channel catalogues

Channels are not declared one by one. A catalogue lists rules, each a pattern over channel names
with the settings it contributes, and a channel is the merge of the rules that its whole name
matches: the longest expiry of them, and the first token policy in the order of the list.
-/

namespace LongPoll

/-- One entry of a catalogue as it is configured. -/
structure ChannelRule where
  /-- The pattern that the whole name has to match. -/
  pattern : String
  /-- How long messages and idle subscribers are kept. -/
  expire : Duration
  /-- The tokens accepted. -/
  jwt : Option JwtPolicy
  deriving DecidableEq

namespace ChannelRule

/-- The expiry of a rule that gives none. -/
def defaultExpire : Duration := Duration.seconds (30 * 60)

/-- The rule for every channel, which stands in for an empty list of rules. -/
def catchAll : ChannelRule := ⟨".+", defaultExpire, none⟩

end ChannelRule

/-- A rule with its pattern read. -/
structure CatalogueEntry where
  /-- The expression that a name has to contain a match of, read from the anchored pattern. -/
  regex : Regex
  /-- How long messages and idle subscribers are kept. -/
  expire : Duration
  /-- The tokens accepted. -/
  jwt : Option JwtPolicy

/-- Whether the rule applies to the channel. -/
def CatalogueEntry.appliesTo (e : CatalogueEntry) (id : ChannelId) : Bool :=
  e.regex.foundIn id.text

/-- A list of rules with their patterns read. -/
structure Catalogue where
  /-- The rules in order. -/
  entries : List CatalogueEntry

namespace Catalogue

/-- Read the pattern of a rule, which stands at the given place of the list. -/
def readRule (index : Nat) (rule : ChannelRule) : Except Error CatalogueEntry :=
  match Pattern.parse? (Pattern.anchored rule.pattern) with
  | some regex => .ok ⟨regex, rule.expire, rule.jwt⟩
  | none =>
    .error <| .config <|
      "channels[" ++ toString index ++ "].regex " ++ Text.quoted rule.pattern ++
        " is not a valid regex: malformed or too large"

/-- Read the patterns of rules, the first of which stands at the given place. -/
def readRules : (index : Nat) → List ChannelRule → Except Error (List CatalogueEntry)
  | _, [] => .ok []
  | index, rule :: rules =>
    match readRule index rule with
    | .error e => .error e
    | .ok entry =>
      match readRules (index + 1) rules with
      | .error e => .error e
      | .ok entries => .ok (entry :: entries)

/-- Read the patterns of all rules, or fail at the first one that is not valid. -/
def ofRules (rules : List ChannelRule) : Except Error Catalogue :=
  match readRules 0 rules with
  | .error e => .error e
  | .ok entries => .ok ⟨entries⟩

/-- Merge the settings of rules. -/
def merge (entries : List CatalogueEntry) : Duration × Option JwtPolicy :=
  entries.foldl
    (fun (expire, jwt) e => (expire.max e.expire, jwt <|> e.jwt)) (Duration.zero, none)

/-- The channel of that name. It exists if some rule applies. -/
def find (c : Catalogue) (id : ChannelId) : Except Error Channel :=
  match c.entries.filter (·.appliesTo id) with
  | [] => .error (.invalidChannel id.text)
  | matching =>
    let (expire, jwt) := merge matching
    .ok ⟨id, expire, jwt⟩

/-- The greatest leeway that any rule grants. -/
def maxLeeway (c : Catalogue) : Duration :=
  (c.entries.filterMap (·.jwt)).foldl (fun d jwt => d.max jwt.leeway) Duration.zero

end Catalogue

end LongPoll
