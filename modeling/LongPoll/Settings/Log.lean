import LongPoll.Log.Control
import LongPoll.Settings.Document
/-!
# Settings of the log

The settings of the log as documents and as JSON values.
-/

namespace LongPoll.LogOptions

/-- Read the settings of the log. -/
def ofDocument? (d : Document) : Option LogOptions := do
  let fields ← d.fields? ["filter", "json"]
  let filter ← fields.getD? "filter" Document.text? default.filter
  let json ← fields.getD? "json" Document.bool? default.json
  some ⟨filter, json⟩

/-- The settings of the log as JSON. -/
def toJson (o : LogOptions) : Json :=
  .object [("filter", .text o.filter), ("json", .bool o.json)]

end LongPoll.LogOptions
