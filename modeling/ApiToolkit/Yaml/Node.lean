import ApiToolkit.Entries
import ApiToolkit.Yaml.Token
/-!
# YAML nodes

Tokens are put together to the nodes of a document.

## What is inside

- `Yaml.Node`: scalars, sequences, mappings and aliases.
- `Yaml.Node.ofTokens?`: the node at the beginning of some tokens.
- `Yaml.document?`: the only document of a text.
-/

namespace ApiToolkit.Yaml

/-- What may stand before a node. -/
structure Marks where
  /-- The name that aliases refer to the node by. -/
  anchor : Option String
  /-- The type of the node. -/
  tag : Option String
deriving DecidableEq

/-- No marks. -/
def Marks.none : Marks := ⟨Option.none, Option.none⟩

/-- A node of a document. -/
inductive Node where
  | scalar (marks : Marks) (text : String) (isPlain : Bool)
  | sequence (marks : Marks) (items : List Node)
  | mapping (marks : Marks) (entries : List (Node × Node))
  | alias (name : String)

/-- A node that is not written. -/
def Node.missing : Node := .scalar .none "" true

/-! ## Tags -/

/-- The handles of tags, and what they stand for. -/
abbrev Handles := Entries String

/-- The handles that need no directive. -/
def Handles.standard : Handles := [("!", "!"), ("!!", "tag:yaml.org,2002:")]

/-- A tag with its handle written out. -/
def Handles.tag? (handles : Handles) (handle suffix : List Char) : Option String :=
  if handle.isEmpty then some (String.ofList suffix)
  else (Entries.find? handles (String.ofList handle)).map fun stem => stem ++ String.ofList suffix

/-- Reads an anchor and a tag, in any order. -/
def Marks.ofTokens? (handles : Handles) (tokens : List Token) : Option (Marks × List Token) :=
  match tokens with
  | .anchor name :: .tag handle suffix :: rest | .tag handle suffix :: .anchor name :: rest =>
    (handles.tag? handle suffix).map fun tag => (⟨some (String.ofList name), some tag⟩, rest)
  | .anchor name :: rest => some (⟨some (String.ofList name), Option.none⟩, rest)
  | .tag handle suffix :: rest =>
    (handles.tag? handle suffix).map fun tag => (⟨Option.none, some tag⟩, rest)
  | rest => some (.none, rest)

/-- A scalar.  A lone exclamation mark is no tag for it. -/
def Node.ofScalar (marks : Marks) (text : List Char) (isPlain : Bool) : Node :=
  .scalar { marks with tag := marks.tag.filter (· != "!") } (String.ofList text) isPlain

/-! ## Nodes -/

/-- Whether nothing is written in a block mapping before the next token. -/
def endsBlockPart (tokens : List Token) : Bool :=
  match tokens with
  | .key :: _ | .value :: _ | .blockEnd :: _ => true
  | _ => false

/-- Whether nothing is written in a flow mapping before the next token. -/
def endsFlowPart (tokens : List Token) : Bool :=
  match tokens with
  | .flowEntry :: _ | .flowMappingEnd :: _ => true
  | _ => false

mutual

/-- Reads a node.  Block collections are allowed if `isBlock` is set, and sequences that are not
indented if `mayHang` is.  `steps` bounds the depth of the recursion. -/
def Node.ofTokens? (handles : Handles) (isBlock mayHang : Bool) (steps : Nat)
    (tokens : List Token) : Option (Node × List Token) :=
  match steps with
  | 0 => none
  | n + 1 =>
    match tokens with
    | .alias name :: rest => some (.alias (String.ofList name), rest)
    | _ =>
      match Marks.ofTokens? handles tokens with
      | none => none
      | some (marks, rest) =>
        match rest with
        | .scalar text isPlain :: rest => some (Node.ofScalar marks text isPlain, rest)
        | .flowSequenceStart :: rest =>
          (flowItems? handles true n rest).map fun (items, rest) => (.sequence marks items, rest)
        | .flowMappingStart :: rest =>
          (flowEntries? handles true n rest).map fun (entries, rest) =>
            (.mapping marks entries, rest)
        | .blockEntry :: _ =>
          if mayHang then
            (hangingItems? handles n rest).map fun (items, rest) => (.sequence marks items, rest)
          else if marks = .none then none
          else some (.scalar marks "" true, rest)
        | .blockSequenceStart :: more =>
          if isBlock then
            (blockItems? handles n more).map fun (items, rest) => (.sequence marks items, rest)
          else if marks = .none then none
          else some (.scalar marks "" true, rest)
        | .blockMappingStart :: more =>
          if isBlock then
            (blockEntries? handles n more).map fun (entries, rest) =>
              (.mapping marks entries, rest)
          else if marks = .none then none
          else some (.scalar marks "" true, rest)
        | _ => if marks = .none then none else some (.scalar marks "" true, rest)

/-- Reads the elements of a block sequence. -/
def blockItems? (handles : Handles) (steps : Nat) (tokens : List Token) :
    Option (List Node × List Token) :=
  match steps with
  | 0 => none
  | n + 1 =>
    match tokens with
    | .blockEnd :: rest => some ([], rest)
    | .blockEntry :: rest => do
      let (item, rest) ←
        match rest with
        | .blockEntry :: _ | .blockEnd :: _ => some (Node.missing, rest)
        | _ => Node.ofTokens? handles true false n rest
      let (items, rest) ← blockItems? handles n rest
      some (item :: items, rest)
    | _ => none

/-- Reads the elements of a sequence that is not indented. -/
def hangingItems? (handles : Handles) (steps : Nat) (tokens : List Token) :
    Option (List Node × List Token) :=
  match steps with
  | 0 => none
  | n + 1 =>
    match tokens with
    | .blockEntry :: rest => do
      let (item, rest) ←
        match rest with
        | .blockEntry :: _ | .key :: _ | .value :: _ | .blockEnd :: _ => some (Node.missing, rest)
        | _ => Node.ofTokens? handles true false n rest
      let (items, rest) ← hangingItems? handles n rest
      some (item :: items, rest)
    | _ => some ([], tokens)

/-- Reads the entries of a block mapping. -/
def blockEntries? (handles : Handles) (steps : Nat) (tokens : List Token) :
    Option (List (Node × Node) × List Token) :=
  match steps with
  | 0 => none
  | n + 1 =>
    match tokens with
    | .blockEnd :: rest => some ([], rest)
    | .key :: rest => do
      let (key, rest) ←
        if endsBlockPart rest then some (Node.missing, rest)
        else Node.ofTokens? handles true true n rest
      let (value, rest) ← blockValue? handles n rest
      let (entries, rest) ← blockEntries? handles n rest
      some ((key, value) :: entries, rest)
    | _ => none

/-- Reads the value of an entry of a block mapping. -/
def blockValue? (handles : Handles) (steps : Nat) (tokens : List Token) :
    Option (Node × List Token) :=
  match steps with
  | 0 => none
  | n + 1 =>
    match tokens with
    | .value :: rest =>
      if endsBlockPart rest then some (Node.missing, rest)
      else Node.ofTokens? handles true true n rest
    | _ => some (Node.missing, tokens)

/-- Reads the elements of a flow sequence.  Before each but the first there has to be a comma. -/
def flowItems? (handles : Handles) (isFirst : Bool) (steps : Nat) (tokens : List Token) :
    Option (List Node × List Token) :=
  match steps with
  | 0 => none
  | n + 1 =>
    match tokens with
    | .flowSequenceEnd :: rest => some ([], rest)
    | _ =>
      let start :=
        match tokens with
        | .flowEntry :: rest => if isFirst then none else some rest
        | rest => if isFirst then some rest else none
      match start with
      | none => none
      | some (.flowSequenceEnd :: rest) => some ([], rest)
      | some (.key :: rest) => do
        let (entry, rest) ← flowPair? handles n rest
        let (items, rest) ← flowItems? handles false n rest
        some (.mapping .none [entry] :: items, rest)
      | some rest => do
        let (item, rest) ← Node.ofTokens? handles false false n rest
        let (items, rest) ← flowItems? handles false n rest
        some (item :: items, rest)

/-- Reads a key and a value that are an element of a flow sequence.  If no key is written, the
token that comes in its place is passed over. -/
def flowPair? (handles : Handles) (steps : Nat) (tokens : List Token) :
    Option ((Node × Node) × List Token) :=
  match steps with
  | 0 => none
  | n + 1 =>
    do
      let (key, rest) ←
        match tokens with
        -- The token itself is taken as the missing key.
        | .value :: rest | .flowEntry :: rest | .flowSequenceEnd :: rest =>
          some (Node.missing, rest)
        | _ => Node.ofTokens? handles false false n tokens
      match rest with
      -- What ends the pair is left for the sequence around it.
      | .value :: .flowEntry :: more => some ((key, Node.missing), .flowEntry :: more)
      | .value :: .flowSequenceEnd :: more => some ((key, Node.missing), .flowSequenceEnd :: more)
      | .value :: more => do
        let (value, rest) ← Node.ofTokens? handles false false n more
        some ((key, value), rest)
      | _ => some ((key, Node.missing), rest)

/-- Reads the entries of a flow mapping.  Before each but the first there has to be a comma. -/
def flowEntries? (handles : Handles) (isFirst : Bool) (steps : Nat) (tokens : List Token) :
    Option (List (Node × Node) × List Token) :=
  match steps with
  | 0 => none
  | n + 1 =>
    match tokens with
    | .flowMappingEnd :: rest => some ([], rest)
    | _ =>
      let start :=
        match tokens with
        | .flowEntry :: rest => if isFirst then none else some rest
        | rest => if isFirst then some rest else none
      match start with
      | none => none
      | some (.flowMappingEnd :: rest) => some ([], rest)
      | some (.key :: rest) => do
        let (key, rest) ←
          match rest with
          | .value :: _ | .flowEntry :: _ | .flowMappingEnd :: _ => some (Node.missing, rest)
          | _ => Node.ofTokens? handles false false n rest
        let (value, rest) ←
          match rest with
          | .value :: more =>
            if endsFlowPart more then some (Node.missing, more)
            else Node.ofTokens? handles false false n more
          | _ => some (Node.missing, rest)
        let (entries, rest) ← flowEntries? handles false n rest
        some ((key, value) :: entries, rest)
      | some rest => do
        let (key, rest) ← Node.ofTokens? handles false false n rest
        let (entries, rest) ← flowEntries? handles false n rest
        some ((key, Node.missing) :: entries, rest)

end

/-! ## Documents -/

/-- Reads the directives before a document: at most one version, and handles for tags. -/
def directives? (hasVersion : Bool) (handles : Handles) (tokens : List Token) :
    Option (Handles × List Token) :=
  match tokens with
  | .version major minor :: rest =>
    if hasVersion || major ≠ 1 || (minor ≠ 1 && minor ≠ 2) then none
    else directives? true handles rest
  | .tagRule handle stem :: rest =>
    let handle := String.ofList handle
    if handles.has handle then none
    else directives? hasVersion (handles ++ [(handle, String.ofList stem)]) rest
  | rest => some (handles, rest)

/-- The content of a document after its start mark. -/
def content? (handles : Handles) (tokens : List Token) : Option (Node × List Token) :=
  match tokens with
  | .version .. :: _ | .tagRule .. :: _ | .documentStart :: _ | .documentEnd :: _
  | .streamEnd :: _ => some (Node.missing, tokens)
  | _ => Node.ofTokens? handles true false (3 * tokens.length + 8) tokens

/-- Whether only end marks are left. -/
def isOver (tokens : List Token) : Bool :=
  match tokens with
  | .documentEnd :: rest => isOver rest
  | [.streamEnd] => true
  | _ => false

/-- Reads the only document of some tokens.  There need not be one. -/
def Node.ofStream? (tokens : List Token) : Option (Option Node) :=
  match tokens with
  | [.streamEnd] => some none
  | _ => do
    let (handles, rest) ← directives? false [] tokens
    let (root, rest) ←
      match rest with
      | .documentStart :: rest => content? (handles ++ Handles.standard) rest
      | _ =>
        -- Directives need a start mark after them.
        if rest.length < tokens.length then none
        else Node.ofTokens? Handles.standard true false (3 * tokens.length + 8) tokens
    if isOver rest then some (some root) else none

/-- Reads the only document of a text. -/
def document? (text : List Char) : Option (Option Node) := (tokens? text).bind Node.ofStream?

end ApiToolkit.Yaml
