import LongPoll.Decimal
import LongPoll.Log.Event
import LongPoll.Pattern.Parser
import LongPoll.Text.Alphanumeric
/-!
# Log filters

A log filter is a list of directives that say which events are recorded: for a part of the
program, given by the start of its name, up to a level; or inside operations of a given kind. The
most specific directive for an event decides, and of two that are equally specific the later one.
-/

namespace LongPoll

/-- The most detailed level that a directive lets through; none lets nothing through. -/
abbrev LogLimit := Option LogLevel

/-- Whether the limit lets a level through. -/
def LogLimit.admits (limit : LogLimit) (level : LogLevel) : Bool :=
  match limit with
  | some l => level.rank ≤ l.rank
  | none => false

/-- A value that a directive demands. -/
inductive DemandedValue where
  /-- This truth value. -/
  | flag (b : Bool)
  /-- This count. -/
  | count (n : Nat)
  /-- A number that is no count. Nothing that is recorded is such a number. -/
  | otherNumber
  /-- A text that ends with what the pattern matches. -/
  | pattern (r : Regex)

/-- What a directive demands of a recorded value. -/
structure FieldDemand where
  /-- The name of the value. -/
  name : String
  /-- The value, if it matters. -/
  value : Option DemandedValue

/-- One directive of a log filter. -/
structure LogDirective where
  /-- How the names of the parts of the program start that the directive is about. -/
  target : Option String
  /-- The kind of operation that it is about. -/
  spanName : Option String
  /-- What it demands of recorded values. -/
  demands : List FieldDemand
  /-- What it lets through. -/
  limit : LogLimit

/-- A log filter. -/
structure LogFilter where
  /-- The filter as it is written. -/
  text : String
  /-- The directives in order. -/
  directives : List LogDirective

namespace LogFilter

/-! ## Reading -/

/-- The limit of that number. -/
def numberedLimit? : Nat → Option LogLimit
  | 0 => some none
  | 1 => some (some .error)
  | 2 => some (some .warn)
  | 3 => some (some .info)
  | 4 => some (some .debug)
  | 5 => some (some .trace)
  | _ => none

/-- The limit of that name, which is written in any case. -/
def namedLimit? (cs : List Char) : Option LogLimit :=
  match String.ofList (cs.map Char.toLower) with
  | "off" => some none
  | "error" => some (some .error)
  | "warn" => some (some .warn)
  | "info" => some (some .info)
  | "debug" => some (some .debug)
  | "trace" => some (some .trace)
  | _ => none

/-- Read a limit: a number or a name. -/
def readLimit? (cs : List Char) : Option LogLimit :=
  ((Text.readWord? cs).bind numberedLimit?).or (namedLimit? cs)

/-- Read the limit at the end of a directive. Without one everything passes. -/
def readEnd? (cs : List Char) : Option LogLimit :=
  if cs.isEmpty then some (some .trace) else readLimit? cs

/-- Read the value that is demanded: a truth value, a number, or a pattern. -/
def readValue? (cs : List Char) : Option DemandedValue :=
  match String.ofList cs, Text.readWord? cs with
  | "true", _ => some (.flag true)
  | "false", _ => some (.flag false)
  | _, some n => some (.count n)
  | s, none => if Decimal.isNumber cs then some .otherNumber else (Pattern.parse? s).map .pattern

/-- Read one demand. What stands after a second equals sign is left out. -/
def readDemand? (cs : List Char) : Option FieldDemand :=
  let name := String.ofList (cs.takeWhile (· ≠ '='))
  match cs.dropWhile (· ≠ '=') with
  | _ :: value => (readValue? (value.takeWhile (· ≠ '='))).map fun v => ⟨name, some v⟩
  | [] => some ⟨name, none⟩

/-- Whether a target can begin with the character. -/
def startsTarget (c : Char) : Bool := c == '-' || c == ':' || c == '_' || Text.isAlphanumeric c

/-- The name of an operation. -/
def spanName? (cs : List Char) : Option String :=
  if cs.isEmpty then none else some (String.ofList cs)

/-- Read one directive: a target, or an operation in brackets, or both in this order, and perhaps an
equals sign and a limit. A limit alone holds for everything. The directive is looked through without
the white space around it, but its parts are cut out, at the places found, of the directive as it is
written. -/
def readDirective? (written : List Char) : Option LogDirective :=
  let cs := Text.trim written
  -- what ends the target says what kind of directive it is
  let start := (cs.takeWhile fun c => c ≠ '=' && c ≠ '[').length
  let target := if start = 0 then none else some (String.ofList (written.take start))
  match cs.drop start with
  | [] => if cs.head?.any startsTarget then some (readWhole written) else none
  | '=' :: _ =>
    if cs.head?.any startsTarget then
      (readEnd? (written.drop (start + 1))).map (⟨target, none, [], ·⟩)
    else none
  | _ :: inside =>
    if start = 0 || cs.head?.any startsTarget then
      let stop := start + 1 + (inside.takeWhile fun c => c ≠ ']' && c ≠ '\x7b').length
      let name := (written.take stop).drop (start + 1)
      match cs.drop stop with
      | ']' :: rest =>
        (readTail? rest (stop + 1)).map (⟨target, some (String.ofList name), [], ·⟩)
      | _ :: fields =>
        let close := stop + 1 + (fields.takeWhile (· ≠ '\x7d')).length
        let demand := (written.take close).drop (stop + 1)
        match cs.drop close with
        | _ :: ']' :: rest =>
          if demand.isEmpty then none
          else do
            let demand ← readDemand? demand
            (readTail? rest (close + 2)).map (⟨target, spanName? name, [demand], ·⟩)
        | _ => none
      | [] => none
    else none
where
  /-- Read a directive that is a limit or a target. -/
  readWhole (cs : List Char) : LogDirective :=
    match readLimit? cs with
    | some limit => ⟨none, none, [], limit⟩
    | none => ⟨some (String.ofList cs), none, [], some .trace⟩
  /-- Read what follows the brackets, which end at the given place. -/
  readTail? (rest : List Char) (place : Nat) : Option LogLimit :=
    match rest with
    | [] => some (some .trace)
    | '=' :: _ => readEnd? (written.drop (place + 1))
    | _ => none

/-- The parts of a text between commas, without the empty ones. -/
def commaParts (cs : List Char) : List (List Char) :=
  let (parts, last) := cs.foldr
    (fun c (parts, current) => if c = ',' then (current :: parts, []) else (parts, c :: current))
    (([] : List (List Char)), [])
  (last :: parts).filter (!·.isEmpty)

/-- Read directives with commas between them. -/
def parse? (s : String) : Option LogFilter :=
  ((commaParts s.toList).mapM readDirective?).map fun directives => ⟨s, directives⟩

/-- Read directives, or say that they are malformed. -/
def parse (s : String) : Except Error LogFilter :=
  match parse? s with
  | some f => .ok f
  | none =>
    .error (.invalidParameter ("invalid log filter " ++ Text.quoted s ++ ": malformed directive"))

/-! ## Filtering -/

/-- Whether a recorded value is the one demanded. -/
def valueMatches : LogValue → DemandedValue → Bool
  | .text s, .pattern r => (Regex.seq r (.look .textEnd)).foundIn s
  | .count n, .count m => n == m
  | .flag a, .flag b => a == b
  | _, _ => false

/-- Whether the directive is about whole parts of the program, not about operations. -/
def isStatic (d : LogDirective) : Bool :=
  d.spanName.isNone && d.demands.all (·.value.isNone)

/-- Whether the directive is about operations. -/
def isDynamic (d : LogDirective) : Bool :=
  d.spanName.isSome || !d.demands.isEmpty

/-- Whether the directive is about the part of the program. -/
def coversTarget (d : LogDirective) (target : String) : Bool :=
  d.target.all fun t => target.startsWith t

/-- Whether all demanded values are recorded. -/
def coversNames (d : LogDirective) (fields : List LogField) : Bool :=
  d.demands.all fun demand => fields.any (·.1 == demand.name)

/-- How specific a directive is. -/
def specificity (d : LogDirective) : Nat × Nat :=
  (match d.target with | some t => t.utf8ByteSize + 1 | none => 0, d.demands.length)

/-- Of two directives the more specific one, or the later one. -/
def moreSpecific (best : Option LogDirective) (d : LogDirective) : Option LogDirective :=
  match best with
  | none => some d
  | some b =>
    let (t, n) := specificity d
    let (t', n') := specificity b
    if t' < t || (t' = t && n' ≤ n) then some d else some b

/-- The limit for a part of the program. Without any directive only errors pass. -/
def staticLimit (f : LogFilter) (target : String) (event : Bool) (fields : List LogField) :
    LogLimit :=
  if f.directives.isEmpty then some .error
  else
    let matching := f.directives.filter fun d =>
      isStatic d && coversTarget d target && (!event || coversNames d fields)
    (matching.foldl moreSpecific none).bind (·.limit)

/-- The directives about operations that cover an operation, whatever its values. -/
def covering (f : LogFilter) (span : LogSpan) : List LogDirective :=
  f.directives.filter fun d =>
    isDynamic d && coversTarget d span.target && d.spanName.all (· == span.name) &&
      coversNames d span.fields

/-- Whether everything that a directive demands is so in the operation. -/
def demandsMet (d : LogDirective) (span : LogSpan) : Bool :=
  d.demands.all fun demand =>
    demand.value.all fun v =>
      span.fields.any fun (name, x) => name == demand.name && valueMatches x v

/-- Whether events of the level pass inside an operation. -/
def admitsInside (f : LogFilter) (span : LogSpan) (level : LogLevel) : Bool :=
  (f.covering span).any fun d => demandsMet d span && LogLimit.admits d.limit level

/-- Whether an event of a part of the program passes inside the operations around it. -/
def admits (f : LogFilter) (target : String) (level : LogLevel) (fields : List LogField)
    (spans : List LogSpan) : Bool :=
  spans.any (f.admitsInside · level) || LogLimit.admits (f.staticLimit target true fields) level

/-- Whether an operation is recorded as such; operations are of the level `info`. -/
def admitsSpan (f : LogFilter) (span : LogSpan) (around : List LogSpan) : Bool :=
  !(f.covering span).isEmpty || around.any (f.admitsInside · .info) ||
    LogLimit.admits (f.staticLimit span.target false span.fields) .info

/-- The filter that lets everything through. -/
def everything : LogFilter := ⟨"trace", [⟨none, none, [], some .trace⟩]⟩

/-- Whether a notice passes inside the operations around it. -/
def admitsNotice (f : LogFilter) (n : Notice) (spans : List LogSpan) : Bool :=
  f.admits n.target n.level n.fields spans

end LogFilter

end LongPoll
