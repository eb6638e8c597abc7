import LongPoll.Log.Filter
/-!
# Control of the log

The log filter in force, which can be replaced as long as there is a log to filter, and the filter
that a program starts with.
-/

namespace LongPoll

/-- The log filter in force. -/
structure LogControl where
  /-- The filter. -/
  filter : LogFilter
  /-- Whether there still is a log to filter. -/
  attached : Bool

namespace LogControl

/-- Start with the written filter. -/
def start (text : String) : Except Error LogControl :=
  (LogFilter.parse text).map fun f => ⟨f, true⟩

/-- Replace the filter by the written one. -/
def replace (c : LogControl) (text : String) : Except Error LogControl :=
  match LogFilter.parse text with
  | .error e => .error e
  | .ok f =>
    if c.attached then .ok { c with filter := f }
    else .error (.internal "failed to reload log filter: there is no log")

/-- The control after the log has gone. -/
def detach (c : LogControl) : LogControl := { c with attached := false }

end LogControl

/-- The settings of the log. -/
structure LogOptions where
  /-- The written filter. -/
  filter : String
  /-- Events are written as JSON. -/
  json : Bool
  deriving DecidableEq

namespace LogOptions

/-- The settings of the log if none are given. -/
def default : LogOptions := ⟨"pubpoll=info,tower_http=info", false⟩

/-- The written filter for debugging. -/
def debugFilter : String := "pubpoll=debug,tower_http=debug"

/-- The written filter to start with: that of the environment, if it is not blank, and otherwise
that of the settings. -/
def chosenFilter (o : LogOptions) (environment : Option String) : String :=
  match environment with
  | some text => if (Text.trim text.toList).isEmpty then o.filter else text
  | none => o.filter

/-- Start the log of a program. There is at most one log, which may be taken already. -/
def install (o : LogOptions) (environment : Option String) (taken : Bool) :
    Except String LogControl :=
  match LogControl.start (o.chosenFilter environment) with
  | .error _ => .error "failed to initialize logging"
  | .ok c => if taken then .error "failed to install the global tracing subscriber" else .ok c

end LogOptions

end LongPoll
