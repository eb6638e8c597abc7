import LongPoll.Table
import LongPoll.Yaml.Token
/-!
# Trees

From the tokens of a YAML text to the document that it says. A text may hold one document at most,
and a reference must name a node that stands before it and does not contain it.
-/

namespace LongPoll.Yaml

/-- The named nodes of a document. -/
structure Anchors where
  /-- The number of the node that each name stands for. -/
  names : Table String Nat
  /-- The nodes by their numbers. A node that is still being read is absent. -/
  nodes : List (Option Document)

namespace Anchors

/-- No named nodes. -/
def none : Anchors := ⟨∅, []⟩

/-- Begin to read a node with a name, if it has one, and give the number of the node. -/
def enter (a : Anchors) : Option String → Anchors × Nat
  | some name => (⟨a.names.insert name a.nodes.length, a.nodes ++ [.none]⟩, a.nodes.length)
  | .none => (a, a.nodes.length)

/-- Finish the node of that number, if it has a name. -/
def leave (a : Anchors) (name : Option String) (n : Nat) (d : Document) : Anchors :=
  if name.isSome then { a with nodes := a.nodes.set n (some d) } else a

/-- The node of that name, if it has been read. -/
def node? (a : Anchors) (name : String) : Option Document :=
  (a.names.get? name).bind fun n => (a.nodes[n]?).bind id

end Anchors

/-- The state of reading nodes. -/
structure Nodes where
  /-- The tokens that follow. -/
  rest : List Token
  /-- The named nodes so far. -/
  anchors : Anchors

/-- The name, the handle of the tag and its suffix that stand before a node. -/
structure Properties where
  /-- The name. -/
  anchor : Option String
  /-- The handle and the suffix of the tag. -/
  tag : Option (String × String)

/-- Read the name and the tag of a node, in either order. -/
def readProperties : List Token → Properties × List Token
  | .anchor name :: .tag handle suffix :: rest => (⟨some name, some (handle, suffix)⟩, rest)
  | .tag handle suffix :: .anchor name :: rest => (⟨some name, some (handle, suffix)⟩, rest)
  | .anchor name :: rest => (⟨some name, none⟩, rest)
  | .tag handle suffix :: rest => (⟨none, some (handle, suffix)⟩, rest)
  | rest => (⟨none, none⟩, rest)

/-- The shorthands for the start of tags. -/
abbrev Handles := Table String String

/-- The tag that a handle and a suffix make, if the handle is known. -/
def resolveTag? (handles : Handles) : Option (String × String) → Option (Option String)
  | none => some none
  | some (handle, suffix) =>
    if handle.isEmpty then some (some suffix)
    else (handles.get? handle).map fun expansion => some (expansion ++ suffix)

/-- The node that stands where nothing is written. -/
def blank : Document := .scalar .plain none ""

mutual

/-- Read a node. Block collections can stand where `inBlock` holds, and block sequences without
indentation of their own where `indentless` holds. -/
def readNode? (handles : Handles) (n : Nat) (inBlock indentless : Bool) (s : Nodes) :
    Option (Document × Nodes) :=
  match n with
  | 0 => none
  | n + 1 =>
    match s.rest with
    | .alias name :: rest => (s.anchors.node? name).map fun d => (d, ⟨rest, s.anchors⟩)
    | _ => do
      let (properties, rest) := readProperties s.rest
      let tag ← resolveTag? handles properties.tag
      let (anchors, number) := s.anchors.enter properties.anchor
      let (d, s) ← match rest, inBlock, indentless with
        | .blockEntry :: _, _, true => do
          let (items, s) ← readIndentless? handles n ⟨rest, anchors⟩
          some (.list false items, s)
        | .scalar style text :: rest, _, _ => some (.scalar style tag text, ⟨rest, anchors⟩)
        | .flowSequence :: rest, _, _ => do
          let (items, s) ← readFlowItems? handles n true ⟨rest, anchors⟩
          some (.list false items, s)
        | .flowMapping :: rest, _, _ => do
          let (entries, s) ← readFlowEntries? handles n true ⟨rest, anchors⟩
          some (.mapping entries, s)
        | .blockSequence :: rest, true, _ => do
          let (items, s) ← readItems? handles n ⟨rest, anchors⟩
          some (.list false items, s)
        | .blockMapping :: rest, true, _ => do
          let (entries, s) ← readEntries? handles n ⟨rest, anchors⟩
          some (.mapping entries, s)
        | _, _, _ =>
          -- an anchor or a tag without a node is put on an empty one
          if properties.anchor.isSome || properties.tag.isSome then
            some (.scalar .plain tag "", ⟨rest, anchors⟩)
          else none
      some (d, { s with anchors := s.anchors.leave properties.anchor number d })

/-- Read the items of a block sequence up to its end. -/
def readItems? (handles : Handles) (n : Nat) (s : Nodes) : Option (List Document × Nodes) :=
  match n with
  | 0 => none
  | n + 1 =>
    match s.rest with
    | .blockEnd :: rest => some ([], { s with rest := rest })
    | .blockEntry :: rest => do
      let (item, s) ← match rest with
        | .blockEntry :: _ | .blockEnd :: _ => some (blank, { s with rest := rest })
        | _ => readNode? handles n true false { s with rest := rest }
      let (items, s) ← readItems? handles n s
      some (item :: items, s)
    | _ => none

/-- Read the items of a block sequence without indentation of its own. -/
def readIndentless? (handles : Handles) (n : Nat) (s : Nodes) : Option (List Document × Nodes) :=
  match n with
  | 0 => none
  | n + 1 =>
    match s.rest with
    | .blockEntry :: rest => do
      let (item, s) ← match rest with
        | .blockEntry :: _ | .key :: _ | .value :: _ | .blockEnd :: _ =>
          some (blank, { s with rest := rest })
        | _ => readNode? handles n true false { s with rest := rest }
      let (items, s) ← readIndentless? handles n s
      some (item :: items, s)
    | _ => some ([], s)

/-- Read the entries of a block mapping up to its end. -/
def readEntries? (handles : Handles) (n : Nat) (s : Nodes) :
    Option (List (Document × Document) × Nodes) :=
  match n with
  | 0 => none
  | n + 1 =>
    match s.rest with
    | .blockEnd :: rest => some ([], { s with rest := rest })
    | .key :: rest => do
      let (key, s) ← readPart? handles n { s with rest := rest }
      let (value, s) ← match s.rest with
        | .value :: rest => readPart? handles n { s with rest := rest }
        | _ => some (blank, s)
      let (entries, s) ← readEntries? handles n s
      some ((key, value) :: entries, s)
    | _ => none

/-- Read a key or a value of a block mapping, which may be left out. -/
def readPart? (handles : Handles) (n : Nat) (s : Nodes) : Option (Document × Nodes) :=
  match n with
  | 0 => none
  | n + 1 =>
    match s.rest with
    | .key :: _ | .value :: _ | .blockEnd :: _ => some (blank, s)
    | _ => readNode? handles n true true s

/-- Read the items of a flow sequence up to its end, with commas between them. An item may be a
mapping with a single entry. -/
def readFlowItems? (handles : Handles) (n : Nat) (first : Bool) (s : Nodes) :
    Option (List Document × Nodes) :=
  match n with
  | 0 => none
  | n + 1 =>
    match s.rest, first with
    | .flowSequenceEnd :: rest, _ => some ([], { s with rest := rest })
    | .flowEntry :: .flowSequenceEnd :: rest, false => some ([], { s with rest := rest })
    | .flowEntry :: rest, false => readFlowItem? handles n { s with rest := rest }
    | _, true => readFlowItem? handles n s
    | _, false => none

/-- Read one item of a flow sequence and those after it. -/
def readFlowItem? (handles : Handles) (n : Nat) (s : Nodes) : Option (List Document × Nodes) :=
  match n with
  | 0 => none
  | n + 1 => do
    let (item, s) ← match s.rest with
      | .key :: rest => do
        let (key, s) ← match rest with
          | .value :: rest | .flowEntry :: rest | .flowSequenceEnd :: rest =>
            some (blank, { s with rest := rest })
          | _ => readNode? handles n false false { s with rest := rest }
        let (value, s) ← match s.rest with
          | .value :: rest =>
            match rest with
            | .flowEntry :: _ | .flowSequenceEnd :: _ => some (blank, { s with rest := rest })
            | _ => readNode? handles n false false { s with rest := rest }
          | _ => some (blank, s)
        some (Document.mapping [(key, value)], s)
      | _ => readNode? handles n false false s
    let (items, s) ← readFlowItems? handles n false s
    some (item :: items, s)

/-- Read the entries of a flow mapping up to its end, with commas between them. -/
def readFlowEntries? (handles : Handles) (n : Nat) (first : Bool) (s : Nodes) :
    Option (List (Document × Document) × Nodes) :=
  match n with
  | 0 => none
  | n + 1 =>
    match s.rest, first with
    | .flowMappingEnd :: rest, _ => some ([], { s with rest := rest })
    | .flowEntry :: .flowMappingEnd :: rest, false => some ([], { s with rest := rest })
    | .flowEntry :: rest, false => readFlowEntry? handles n { s with rest := rest }
    | _, true => readFlowEntry? handles n s
    | _, false => none

/-- Read one entry of a flow mapping and those after it. -/
def readFlowEntry? (handles : Handles) (n : Nat) (s : Nodes) :
    Option (List (Document × Document) × Nodes) :=
  match n with
  | 0 => none
  | n + 1 => do
    let (entry, s) ← match s.rest with
      | .key :: rest => do
        let (key, s) ← match rest with
          | .value :: _ | .flowEntry :: _ | .flowMappingEnd :: _ =>
            some (blank, { s with rest := rest })
          | _ => readNode? handles n false false { s with rest := rest }
        let (value, s) ← match s.rest with
          | .value :: rest =>
            match rest with
            | .flowEntry :: _ | .flowMappingEnd :: _ => some (blank, { s with rest := rest })
            | _ => readNode? handles n false false { s with rest := rest }
          | _ => some (blank, s)
        some ((key, value), s)
      | _ => do
        let (key, s) ← readNode? handles n false false s
        some ((key, blank), s)
    let (entries, s) ← readFlowEntries? handles n false s
    some (entry :: entries, s)

end

/-- Read the directives before a document. There may be one version, which has to be 1.1 or 1.2,
and each shorthand may be given once. -/
def readDirectives? : (version : Bool) → Handles → List Token → Option (Handles × List Token)
  | version, given, .versionDirective major minor :: rest =>
    if version || major != 1 || (minor != 1 && minor != 2) then none
    else readDirectives? true given rest
  | version, given, .tagDirective handle expansion :: rest =>
    if given.contains handle then none
    else readDirectives? version (given.insert handle expansion) rest
  | _, given, rest => some (given, rest)

/-- The shorthands that hold everywhere, after those that are given. -/
def withDefaults (given : Handles) : Handles :=
  let add (handles : Handles) (handle expansion : String) : Handles :=
    if handles.contains handle then handles else handles.insert handle expansion
  add (add given "!" "!") "!!" "tag:yaml.org,2002:"

/-- Read the first document, which is blank if nothing is written. -/
def readDocument? (tokens : List Token) : Option (Document × List Token) := do
  -- fewer than four readers call each other before one of them takes a token in
  let limit := 4 * tokens.length + 4
  let root (handles : Handles) (rest : List Token) : Option (Document × List Token) := do
    let (d, s) ← readNode? (withDefaults handles) limit true false ⟨rest, .none⟩
    some (d, s.rest)
  match tokens with
  | [] => some (blank, [])
  | .versionDirective .. :: _ | .tagDirective .. :: _ | .documentStart :: _ =>
    let (handles, rest) ← readDirectives? false ∅ tokens
    match rest with
    | .documentStart :: rest =>
      match rest with
      | [] | .versionDirective .. :: _ | .tagDirective .. :: _ | .documentStart :: _
      | .documentEnd :: _ => some (blank, rest)
      | _ => root handles rest
    | _ => none
  | _ => root ∅ tokens

/-- The document that tokens make, if they make exactly one. -/
def Token.document? (tokens : List Token) : Option Document := do
  let (d, rest) ← readDocument? tokens
  if rest.all (· = .documentEnd) then some d else none

end LongPoll.Yaml

namespace LongPoll.Document

/-- The document that a YAML text says. -/
def ofYaml? (s : String) : Option Document :=
  (Yaml.Token.ofText? s).bind Yaml.Token.document?

end LongPoll.Document
