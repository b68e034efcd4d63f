/-
Nodes of a YAML document: scalars, sequences and mappings, with their tags. A document is read from
its tokens; an alias is replaced by the node that bears its anchor, which must come before it.
-/

import Stencil.Yaml.Token

namespace Stencil.Yaml

/-- A node. A tag is written out in full; nodes without one have none. -/
inductive Node where
  | scalar (tag : Option Text) (style : ScalarStyle) (text : Text)
  | sequence (tag : Option Text) (items : List Node)
  | mapping (tag : Option Text) (entries : List (Node × Node))

/-- Nodes by their anchors, the latest first. -/
abbrev Anchors := List (Text × Node)

/-- Handles of tags and what they stand for. -/
abbrev Handles := List (Text × Text)

/-- What is left to read, and the anchors seen so far. -/
structure Reading where
  tokens : List Token
  anchors : Anchors := []

namespace Node

/-- The empty scalar that stands where a node is left out. -/
def missing : Node :=
  .scalar none .plain []

/-- What the two handles that need no directive stand for. -/
def standardHandles : Handles :=
  [(['!'], ['!']), (['!', '!'], "tag:yaml.org,2002:".toList)]

/-- The full tag of a handle and a suffix. -/
def fullTag? (handles : Handles) (handle suffix : Text) : Option Text :=
  if handle.isEmpty then some suffix
  else (handles.lookup handle).map (· ++ suffix)

/-- The anchor and the tag before a node, in either order, and the tokens after them. -/
def properties? (handles : Handles) :
    List Token → Option (Option Text × Option Text × List Token)
  | .anchor name :: .tag handle suffix :: rest =>
    (fullTag? handles handle suffix).map fun tag => (some name, some tag, rest)
  | .tag handle suffix :: .anchor name :: rest =>
    (fullTag? handles handle suffix).map fun tag => (some name, some tag, rest)
  | .anchor name :: rest => some (some name, none, rest)
  | .tag handle suffix :: rest =>
    (fullTag? handles handle suffix).map fun tag => (none, some tag, rest)
  | rest => some (none, none, rest)

/-- Where a node stands: among blocks, as the value of a key there, or inside brackets. Only the value
of a key may be a sequence whose hyphens stand at the indentation of the key. -/
inductive Place where
  | block
  | keyed
  | flow
deriving DecidableEq, Repr

/-- Reads a node, or leaves it out before one of the given tokens. -/
def orMissing? (read : Reading → Option (Node × Reading)) (ends : Token → Bool)
    (reading : Reading) : Option (Node × Reading) :=
  match reading.tokens with
  | [] => none
  | token :: _ => if ends token then some (missing, reading) else read reading

/-- The entries of a sequence of hyphens; `closed` says whether a token ends it. -/
def blockItems? (read : Reading → Option (Node × Reading)) (closed : Bool) :
    (fuel : Nat) → Reading → Option (List Node × Reading)
  | 0, _ => none
  | fuel + 1, reading =>
    match reading.tokens with
    | .blockEntry :: rest => do
      let ends := fun (token : Token) =>
        token == .blockEntry || token == .blockEnd ||
          (!closed && (token == .key || token == .value))
      let (item, reading) ← orMissing? read ends { reading with tokens := rest }
      let (items, reading) ← blockItems? read closed fuel reading
      return (item :: items, reading)
    | .blockEnd :: rest =>
      some ([], if closed then { reading with tokens := rest } else reading)
    | _ => if closed then none else some ([], reading)

/-- The entries of a mapping among blocks. -/
def blockEntries? (read : Reading → Option (Node × Reading)) :
    (fuel : Nat) → Reading → Option (List (Node × Node) × Reading)
  | 0, _ => none
  | fuel + 1, reading =>
    let ends := fun (token : Token) => token == .key || token == .value || token == .blockEnd
    match reading.tokens with
    | .key :: rest => do
      let (key, reading) ← orMissing? read ends { reading with tokens := rest }
      let (value, reading) ←
        match reading.tokens with
        | .value :: rest => orMissing? read ends { reading with tokens := rest }
        | _ => some (missing, reading)
      let (entries, reading) ← blockEntries? read fuel reading
      return ((key, value) :: entries, reading)
    | .blockEnd :: rest => some ([], { reading with tokens := rest })
    | _ => none

/-- The value of a key inside brackets, left out before a token that ends the entry. -/
def flowValue? (read : Reading → Option (Node × Reading)) (last : Token) (reading : Reading) :
    Option (Node × Reading) :=
  match reading.tokens with
  | .value :: rest =>
    orMissing? read (fun token => token == .flowEntry || token == last)
      { reading with tokens := rest }
  | _ => some (missing, reading)

/-- The key and the value of an entry inside brackets, after the token that announces a key. -/
def flowPair? (read : Reading → Option (Node × Reading)) (last : Token) (reading : Reading) :
    Option ((Node × Node) × Reading) := do
  let ends := fun (token : Token) => token == .value || token == .flowEntry || token == last
  let (key, reading) ← orMissing? read ends reading
  let (value, reading) ← flowValue? read last reading
  return ((key, value), reading)

/-- The entries of a sequence in brackets. An entry with a key is a mapping of its own. -/
def flowItems? (read : Reading → Option (Node × Reading)) :
    (fuel : Nat) → (first : Bool) → Reading → Option (List Node × Reading)
  | 0, _, _ => none
  | fuel + 1, first, reading =>
    match reading.tokens with
    | .flowSequenceEnd :: rest => some ([], { reading with tokens := rest })
    | tokens => do
      let tokens ← if first then some tokens else
        match tokens with
        | .flowEntry :: rest => some rest
        | _ => none
      match tokens with
      | .flowSequenceEnd :: rest => return ([], { reading with tokens := rest })
      | .key :: rest =>
        let (pair, reading) ← flowPair? read .flowSequenceEnd { reading with tokens := rest }
        let (items, reading) ← flowItems? read fuel false reading
        return (.mapping none [pair] :: items, reading)
      | _ =>
        let (item, reading) ← read { reading with tokens }
        let (items, reading) ← flowItems? read fuel false reading
        return (item :: items, reading)

/-- The entries of a mapping in braces. An entry without a colon is a key without value. -/
def flowEntries? (read : Reading → Option (Node × Reading)) :
    (fuel : Nat) → (first : Bool) → Reading → Option (List (Node × Node) × Reading)
  | 0, _, _ => none
  | fuel + 1, first, reading =>
    match reading.tokens with
    | .flowMappingEnd :: rest => some ([], { reading with tokens := rest })
    | tokens => do
      let tokens ← if first then some tokens else
        match tokens with
        | .flowEntry :: rest => some rest
        | _ => none
      match tokens with
      | .flowMappingEnd :: rest => return ([], { reading with tokens := rest })
      | .key :: rest =>
        let (pair, reading) ← flowPair? read .flowMappingEnd { reading with tokens := rest }
        let (entries, reading) ← flowEntries? read fuel false reading
        return (pair :: entries, reading)
      | _ =>
        let (key, reading) ← read { reading with tokens }
        let (entries, reading) ← flowEntries? read fuel false reading
        return ((key, missing) :: entries, reading)

/-- What a node without its anchor is: a scalar, or a collection whose parts are read by `read`. -/
def content? (read : Place → Reading → Option (Node × Reading)) (place : Place)
    (anchored : Bool) (tag : Option Text) (reading : Reading) : Option (Node × Reading) :=
  let fuel := reading.tokens.length
  let collected := fun (rest : List Token) => { reading with tokens := rest }
  match reading.tokens with
  | .scalar style text :: rest => some (.scalar tag style text, collected rest)
  | .flowSequenceStart :: rest =>
    (flowItems? (read .flow) fuel true (collected rest)).map fun (items, reading) =>
      (.sequence tag items, reading)
  | .flowMappingStart :: rest =>
    (flowEntries? (read .flow) fuel true (collected rest)).map fun (entries, reading) =>
      (.mapping tag entries, reading)
  | tokens =>
    match place, tokens with
    | .keyed, .blockEntry :: _ =>
      (blockItems? (read .block) false fuel reading).map fun (items, reading) =>
        (.sequence tag items, reading)
    | .block, .blockSequenceStart :: rest | .keyed, .blockSequenceStart :: rest =>
      (blockItems? (read .block) true fuel (collected rest)).map fun (items, reading) =>
        (.sequence tag items, reading)
    | .block, .blockMappingStart :: rest | .keyed, .blockMappingStart :: rest =>
      (blockEntries? (read .keyed) fuel (collected rest)).map fun (entries, reading) =>
        (.mapping tag entries, reading)
    | _, _ =>
      if anchored || tag.isSome then some (.scalar tag .plain [], reading) else none

/-- Reads a node whose collections nest at most `depth` deep. -/
def read? (handles : Handles) : (depth : Nat) → Place → Reading → Option (Node × Reading)
  | 0, _, _ => none
  | depth + 1, place, reading =>
    match reading.tokens with
    | .alias name :: rest =>
      (reading.anchors.lookup name).map fun node => (node, { reading with tokens := rest })
    | tokens => do
      let (anchor, tag, rest) ← properties? handles tokens
      let (node, reading) ←
        content? (read? handles depth) place anchor.isSome tag { reading with tokens := rest }
      match anchor with
      | none => return (node, reading)
      | some name => return (node, { reading with anchors := (name, node) :: reading.anchors })

/-! ### Documents -/

/-- The deepest nesting of nodes that is accepted. -/
def maxDepth : Nat :=
  129

/-- What a stream holds. -/
inductive Stream where
  | empty
  | document (node : Node)

/-- The directives before a document: at most one version, which must be 1.1 or 1.2, and handles of
tags, each at most once. -/
def directives? : (versioned : Bool) → Handles → List Token → Option (Handles × List Token)
  | versioned, handles, .version major minor :: rest =>
    if versioned || major != 1 || (minor != 1 && minor != 2) then none
    else directives? true handles rest
  | versioned, handles, .tagDirective handle leading :: rest =>
    if (handles.lookup handle).isSome then none
    else directives? versioned ((handle, leading) :: handles) rest
  | _, handles, rest => some (handles, rest)

/-- Whether a token shows that a document has no node. -/
def endsDocument : Token → Bool
  | .version _ _ | .tagDirective _ _ | .documentStart | .documentEnd | .streamEnd => true
  | _ => false

/-- Reads a stream that holds one document at most. -/
def ofTokens? (tokens : List Token) : Option Stream := do
  if tokens.head? == some .streamEnd then return .empty
  let (given, rest) ← directives? false [] tokens
  let explicit := rest.head? == some .documentStart
  if rest.length != tokens.length && !explicit then none
  let handles := given ++ standardHandles
  let body := if explicit then rest.drop 1 else rest
  let (node, reading) ←
    if explicit then
      orMissing? (read? handles maxDepth .block) endsDocument { tokens := body }
    else
      read? handles maxDepth .block { tokens := body }
  let after := reading.tokens.dropWhile (· == .documentEnd)
  if after == [.streamEnd] then return .document node else none

/-- Reads a text that holds one document at most. -/
def parse? (text : Text) : Option Stream :=
  (Token.scan? text).bind ofTokens?

end Node

end Stencil.Yaml
