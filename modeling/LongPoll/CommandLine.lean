import LongPoll.Settings.Server
/-!
# The command line

What the program is asked to do: which settings to load, what to override in them, and whether to
show them. Arguments are taken in from left to right; the value of an option is only looked at when
the next argument that is understood comes, or at the end.
-/

namespace LongPoll

/-- Why a command line is not followed. -/
inductive CommandLineError where
  /-- There is no such option, or there are too many paths. -/
  | unknownArgument
  /-- An option or a path lacks its value. -/
  | missingValue
  /-- A value is not of the kind that the option takes. -/
  | malformedValue
  /-- An option is given twice. -/
  | repeated
  /-- An option that takes no value is given one. -/
  | unexpectedValue
  /-- The caller asks for help. -/
  | help
  /-- The caller asks for the version. -/
  | version
  deriving DecidableEq, Repr

namespace CommandLineError

/-- The wording of a refusal. -/
def message : CommandLineError → String
  | unknownArgument => "unexpected argument found"
  | missingValue => "a value is required but none was supplied"
  | malformedValue => "invalid value for an option"
  | repeated => "an argument cannot be used multiple times"
  | unexpectedValue => "unexpected value for an option found"
  | help => "help was asked for"
  | version => "the version was asked for"

end CommandLineError

/-- What a command line asks for. -/
structure CommandLine where
  /-- The path of the file with the settings. -/
  config : Option String
  /-- The port to listen on. -/
  port : Option Nat
  /-- The address to listen on. -/
  listen : Option String
  /-- Whether to log for debugging. -/
  debug : Bool
  /-- Whether to show the settings. -/
  dumpConfig : Bool
  deriving DecidableEq

namespace CommandLine

/-- The command line without arguments. -/
def empty : CommandLine := ⟨none, none, none, false, false⟩

/-- What the command line overrides in settings. -/
def overrides (c : CommandLine) : Overrides := ⟨c.port, c.listen, c.debug⟩

/-- Something that takes a value. -/
inductive Slot where
  /-- The path of the file with the settings. -/
  | config
  /-- The port to listen on. -/
  | port
  /-- The address to listen on. -/
  | listen
  deriving DecidableEq, Repr

/-- An argument that has not been looked at. -/
inductive Pending where
  /-- There is none. -/
  | nothing
  /-- An option waits for its value. -/
  | awaiting (s : Slot)
  /-- A value waits to be looked at. -/
  | holding (s : Slot) (value : String)
  deriving DecidableEq, Repr

/-- The arguments taken in so far. -/
structure Progress where
  /-- What they ask for. -/
  line : CommandLine
  /-- The last one of them, if it has not been looked at. -/
  pending : Pending
  /-- Whether a path has been given. -/
  hasPath : Bool

/-- Read a port: a whole number of 16 bits, perhaps with a sign. -/
def readPort? (s : String) : Option Nat :=
  let (negative, digits) := match s.toList with
    | '-' :: rest => (true, rest)
    | '+' :: rest => (false, rest)
    | cs => (false, cs)
  (Text.readNat? 10 digits).filter fun n => if negative then n = 0 else n < Word.values16

/-- Take in a value. -/
def put (c : CommandLine) (s : Slot) (value : String) : Except CommandLineError CommandLine :=
  match s with
  | .config =>
    if c.config.isSome then .error .repeated
    else if value.isEmpty then .error .missingValue
    else .ok { c with config := some value }
  | .listen =>
    if c.listen.isSome then .error .repeated else .ok { c with listen := some value }
  | .port =>
    if c.port.isSome then .error .repeated
    else
      match readPort? value with
      | some n => .ok { c with port := some n }
      | none => .error .malformedValue

namespace Progress

/-- Nothing taken in. -/
def start : Progress := ⟨empty, .nothing, false⟩

/-- Look at the pending argument. -/
def settle (p : Progress) : Except CommandLineError Progress :=
  match p.pending with
  | .nothing => .ok p
  | .awaiting _ => .error .missingValue
  | .holding s value =>
    (p.line.put s value).map fun line => { p with line := line, pending := .nothing }

/-- Take in a path. -/
def path (p : Progress) (value : String) : Except CommandLineError Progress :=
  if p.hasPath then .error .unknownArgument
  else p.settle.map fun p => { p with pending := .holding .config value, hasPath := true }

/-- Take in an option that takes a value, which may be attached to it. -/
def option (p : Progress) (s : Slot) (attached : Option String) :
    Except CommandLineError Progress := do
  let p ← p.settle
  match attached with
  | some value => (p.line.put s value).map fun line => { p with line := line }
  | none => .ok { p with pending := .awaiting s }

/-- Take in an option that takes no value. -/
def switch (p : Progress) (attached : Option String)
    (turn : CommandLine → Except CommandLineError CommandLine) :
    Except CommandLineError Progress :=
  if attached.isSome then .error .unexpectedValue
  else do
    let p ← p.settle
    (turn p.line).map fun line => { p with line := line }

/-- Take in an option with a long name. -/
def long (p : Progress) (name : String) (attached : Option String) :
    Except CommandLineError Progress :=
  match name with
  | "port" => p.option .port attached
  | "listen" => p.option .listen attached
  | "debug" =>
    p.switch attached fun c => if c.debug then .error .repeated else .ok { c with debug := true }
  | "dump-config" =>
    p.switch attached fun c =>
      if c.dumpConfig then .error .repeated else .ok { c with dumpConfig := true }
  | "help" => p.switch attached fun _ => .error .help
  | "version" => p.switch attached fun _ => .error .version
  | _ => .error .unknownArgument

/-- Take in options with short names, of which each ends the program. -/
def short (p : Progress) (c : Char) : Except CommandLineError Progress :=
  if c == 'h' then p.switch none fun _ => .error .help
  else if c == 'V' then p.switch none fun _ => .error .version
  else .error .unknownArgument

/-- Take in an argument that may be an option. -/
def argument (p : Progress) (arg : String) : Except CommandLineError Progress :=
  match arg.toList with
  | '-' :: '-' :: cs =>
    let name := String.ofList (cs.takeWhile (· ≠ '='))
    match cs.dropWhile (· ≠ '=') with
    | _ :: value => p.long name (some (String.ofList value))
    | [] => p.long name none
  | '-' :: c :: _ => p.short c
  | _ =>
    match p.pending with
    -- what does not look like an option is the value that the one before it waits for
    | .awaiting s => .ok { p with pending := .holding s arg }
    | _ => p.path arg

end Progress

/-- Take in arguments. After two dashes all arguments are paths. -/
def run (p : Progress) : (pathsOnly : Bool) → List String → Except CommandLineError CommandLine
  | _, [] => p.settle.map (·.line)
  | true, arg :: args =>
    match p.path arg with
    | .ok p => run p true args
    | .error e => .error e
  | false, arg :: args =>
    if arg = "--" then run p true args
    else
      match p.argument arg with
      | .ok p => run p false args
      | .error e => .error e

/-- What arguments ask for. -/
def parse (args : List String) : Except CommandLineError CommandLine :=
  run Progress.start false args

end CommandLine

end LongPoll
