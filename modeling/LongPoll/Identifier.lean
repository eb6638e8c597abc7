import LongPoll.Error
import LongPoll.Text.Digits
/-!
# Identifiers

Names of channels, subscribers, messages and tokens. The first three consist of 1 to 256 ASCII
characters that stand in a path without escapes; a token name is any text but the empty one.
-/

namespace LongPoll

/-- The greatest length of a checked identifier in octets. -/
def maxIdLength : Nat := 256

/-- Whether the character may stand in a checked identifier. -/
def isIdChar (c : Char) : Bool :=
  Text.isLetterOrDigit c || c == '-' || c == '_' || c == '.' || c == '@' || c == '~' || c == ':'

/-- Whether the text is a name of the kind. -/
def IdKind.accepts (kind : IdKind) (s : String) : Bool :=
  match kind with
  | .jti => !s.isEmpty
  | _ => !s.isEmpty && decide (s.utf8ByteSize ≤ maxIdLength) && s.toList.all isIdChar

/-- An identifier of one kind. -/
structure Id (kind : IdKind) where
  /-- The name itself. -/
  text : String
  /-- The name is one of its kind. -/
  accepted : kind.accepts text = true
  deriving DecidableEq

namespace Id

variable {kind : IdKind}

/-- Check a text and make it an identifier. -/
def ofText (kind : IdKind) (s : String) : Except Error (Id kind) :=
  if h : kind.accepts s = true then .ok ⟨s, h⟩ else .error (.invalidId kind s)

instance : ToString (Id kind) := ⟨Id.text⟩

end Id

/-- The name of a channel. -/
abbrev ChannelId := Id .channel

/-- The name of a subscriber, one of a kind in its channel. -/
abbrev SubscriberId := Id .subscriber

/-- The name of a message, one of a kind in its channel. -/
abbrev MessageId := Id .message

/-- The name given to the `n`-th message that comes without one. -/
def MessageId.numbered (n : Nat) : MessageId :=
  match Id.ofText .message ("generated-" ++ String.ofList (Text.decimal n)) with
  | .ok id => id
  | .error _ => ⟨"generated", by decide +kernel⟩

/-- The name of a token. -/
abbrev Jti := Id .jti

/-- One consumer of one channel. -/
structure Locator where
  /-- The channel. -/
  channel : ChannelId
  /-- The consumer in the channel. -/
  subscriber : SubscriberId
  deriving DecidableEq

instance : ToString Locator := ⟨fun l => l.channel.text ++ "/" ++ l.subscriber.text⟩

/-- A published message. -/
structure Message where
  /-- The channel it was published to. -/
  channel : ChannelId
  /-- Its name in that channel. -/
  id : MessageId
  /-- What it carries. -/
  content : ByteArray

/-- Messages are the same if channel, name and every octet of the content are. -/
theorem Message.eq_iff (a b : Message) :
    a = b ↔ a.channel = b.channel ∧ a.id = b.id ∧ a.content.data = b.content.data := by
  obtain ⟨channel, id, ⟨content⟩⟩ := a
  obtain ⟨channel', id', ⟨content'⟩⟩ := b
  simp

instance : DecidableEq Message := fun a b => decidable_of_iff' _ (Message.eq_iff a b)

end LongPoll
