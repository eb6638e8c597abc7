import LongPoll.CommandLine
import LongPoll.Http.Server
/-!
# The program

Loads the settings that the command line names, shows them if it is asked to, and sets a server up
with them. What goes wrong, and what is reported on the way, goes to the standard error.
-/

namespace LongPoll

/-- How the program is called. -/
def usage : String :=
  "Usage: pubpoll [OPTIONS] [CONFIG]\n\n" ++
  "Arguments:\n  [CONFIG]  Configuration file, - reads standard input\n\n" ++
  "Options:\n" ++
  "      --port <PORT>      Override http.port configuration item\n" ++
  "      --listen <LISTEN>  Override http.listen configuration item\n" ++
  "      --debug            Enable debug logs\n" ++
  "      --dump-config      Dump loaded configuration to stderr\n" ++
  "  -h, --help             Print help\n" ++
  "  -V, --version          Print version\n"

/-- The report about an event on one line. -/
def LogEvent.line (e : LogEvent) : String :=
  e.notice.level.word ++ " " ++ e.notice.target ++ ": " ++ e.notice.message

/-- A chain of reasons, the outermost one first. -/
def reasons (chain : List String) : String := "Error: " ++ ": ".intercalate chain

/-- The content of the file at a path, if it can be read as text. -/
def readFile (path : String) : IO ServerOptions.File := do
  let octets ← try
      if path = "-" then
        pure (some (← (← IO.getStdin).readToEnd).toUTF8)
      else
        pure (some (← IO.FS.readBinFile path))
    catch _ => pure none
  pure ⟨path, octets.bind Text.strict?⟩

/-- Set a server up as the command line says. -/
def setUp (c : CommandLine) : IO UInt32 := do
  match ServerOptions.load (← c.config.mapM readFile) c.overrides with
  | .error e =>
    IO.eprintln (reasons e.chain)
    pure 1
  | .ok o =>
    if c.dumpConfig then IO.eprint o.dump
    match o.log.install (← IO.getEnv "RUST_LOG") false with
    | .error reason =>
      IO.eprintln (reasons [reason])
      pure 1
    | .ok control =>
      let (w, server) := Http.Server.start o control.filter (Timestamp.clamp 0)
      w.events.reverse.forM fun e => IO.eprintln e.line
      match server with
      | .error e =>
        IO.eprintln (reasons [e.message])
        pure 1
      | .ok _ => pure 0

end LongPoll

/-- Follow the command line. -/
def main (args : List String) : IO UInt32 := do
  match LongPoll.CommandLine.parse args with
  | .ok c => LongPoll.setUp c
  | .error .help =>
    IO.print LongPoll.usage
    pure 0
  | .error .version =>
    IO.println ("pubpoll " ++ LongPoll.Http.Api.version)
    pure 0
  | .error e =>
    IO.eprintln ("error: " ++ e.message)
    pure 2
