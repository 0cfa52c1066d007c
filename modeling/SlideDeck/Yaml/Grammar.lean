import SlideDeck.Yaml.Node

/-!
Contract: the grammar by which tokens nest into the nodes of one document.

Every function takes a bound on the depth of its recursion; `document?` supplies one that the
number of tokens always satisfies, since each step consumes a token.

Owns:
- tag handles and anchor numbers while reading;
- block and flow collections;
- `document?`, the only document of a token list.

Does not own: the meaning of texts.
-/

namespace SlideDeck.Yaml

namespace Grammar

/-- The tokens left to read and the anchors met so far with their numbers. -/
structure Reading where
  tokens : List Token
  anchors : List (String × Nat)

abbrev Reader := StateT Reading Option

def peek? : Reader (Option Token) := do
  return (← get).tokens.head?

def skip : Reader Unit :=
  modify fun reading => { reading with tokens := reading.tokens.drop 1 }

/-- Goes over one given token, which must come next. -/
def expect (token : Token) : Reader Unit := do
  if (← peek?) == some token then skip else failure

/-- Numbers an anchor: by the count of different names met before, also when its own name was
met before. -/
def defineAnchor (name : String) : Reader Nat := do
  let reading ← get
  let number := reading.anchors.length
  let others := reading.anchors.filter (·.1 != name)
  set { reading with anchors := (name, number) :: others }
  return number

def anchorNumber (name : String) : Reader Nat := do
  match (← get).anchors.lookup name with
  | some number => return number
  | none => failure

abbrev Handles := List (String × Address)

/-- The address of a tag: its suffix behind what its handle stands for. -/
def resolveTag (handles : Handles) (handle : String) (suffix : Address) : Reader Address :=
  if handle.isEmpty then return suffix
  else
    match handles.lookup handle with
    | some address => return address ++ suffix
    | none => failure

def anchor : Reader (Option Nat) := do
  match ← peek? with
  | some (.anchor name) => do
      skip
      return some (← defineAnchor name)
  | _ => return none

def tag (handles : Handles) : Reader (Option Tag) := do
  match ← peek? with
  | some (.tag handle suffix) => do
      skip
      return some (Tag.ofAddress (← resolveTag handles handle suffix))
  | _ => return none

def properties (handles : Handles) : Reader Properties := do
  let early ← anchor
  let found ← tag handles
  let late ← if early.isNone && found.isSome then anchor else pure none
  return ⟨early.or late, found⟩

def seesOneOf (tokens : List Token) : Reader Bool := do
  return (← peek?).any tokens.contains

/-- Where a node stands: whether it may be a block collection, and whether a sequence there may
begin without indentation. -/
structure Place where
  block : Bool
  flushSequence : Bool

def Place.blockItem : Place := ⟨true, false⟩

def Place.blockPair : Place := ⟨true, true⟩

def Place.flow : Place := ⟨false, false⟩

mutual

def node (handles : Handles) : (fuel : Nat) → Place → Reader Node
  | 0, _ => failure
  | fuel + 1, place => do
      match ← peek? with
      | some (.reference name) => do
          skip
          return .reference (← anchorNumber name)
      | _ => do
          let properties ← properties handles
          match ← peek? with
          | some .blockEntry =>
              if place.flushSequence then
                return .sequence properties (← flushItems handles fuel)
              else if properties.isMarked then return .text properties "" .plain
              else failure
          | some (.text content style) => do
              skip
              return .text properties content style
          | some .flowSequenceStart => do
              skip
              return .sequence properties (← flowItems handles fuel true)
          | some .flowMappingStart => do
              skip
              return .mapping properties (← flowEntries handles fuel true)
          | some .blockSequenceStart =>
              if place.block then do
                skip
                return .sequence properties (← blockItems handles fuel)
              else if properties.isMarked then return .text properties "" .plain
              else failure
          | some .blockMappingStart =>
              if place.block then do
                skip
                return .mapping properties (← blockEntries handles fuel)
              else if properties.isMarked then return .text properties "" .plain
              else failure
          | _ => if properties.isMarked then return .text properties "" .plain else failure

/-- Reads a node, or the empty node when one of the given tokens comes next. -/
def nodeUnless (handles : Handles) : (fuel : Nat) → List Token → Place → Reader Node
  | 0, _, _ => failure
  | fuel + 1, stops, place => do
      if ← seesOneOf stops then return .empty else node handles fuel place

def blockItems (handles : Handles) : (fuel : Nat) → Reader (List Node)
  | 0 => failure
  | fuel + 1 => do
      match ← peek? with
      | some .blockEntry => do
          skip
          let item ← nodeUnless handles fuel [.blockEntry, .blockEnd] .blockItem
          return item :: (← blockItems handles fuel)
      | some .blockEnd => do
          skip
          return []
      | _ => failure

/-- Reads the entries of a block sequence that is indented as the mapping around it. -/
def flushItems (handles : Handles) : (fuel : Nat) → Reader (List Node)
  | 0 => failure
  | fuel + 1 => do
      match ← peek? with
      | some .blockEntry => do
          skip
          let item ← nodeUnless handles fuel [.blockEntry, .key, .value, .blockEnd] .blockItem
          return item :: (← flushItems handles fuel)
      | _ => return []

def blockEntries (handles : Handles) : (fuel : Nat) → Reader (List (Node × Node))
  | 0 => failure
  | fuel + 1 => do
      match ← peek? with
      | some .blockEnd => do
          skip
          return []
      | some .key => do
          skip
          let key ← nodeUnless handles fuel [.key, .value, .blockEnd] .blockPair
          blockValue handles fuel key
      | _ => failure

/-- Reads the value of a key in a block mapping and the entries behind it. -/
def blockValue (handles : Handles) : (fuel : Nat) → Node → Reader (List (Node × Node))
  | 0, _ => failure
  | fuel + 1, key => do
      let value ←
        if ← seesOneOf [.value] then do
          skip
          nodeUnless handles fuel [.key, .value, .blockEnd] .blockPair
        else pure .empty
      return (key, value) :: (← blockEntries handles fuel)

/-- Reads the entries of a flow sequence; a comma stands before each but the first. An entry
with a key is a mapping of one entry. -/
def flowItems (handles : Handles) : (fuel : Nat) → (first : Bool) → Reader (List Node)
  | 0, _ => failure
  | fuel + 1, first => do
      if ← seesOneOf [.flowSequenceEnd] then do
        skip
        return []
      else
        if !first then expect .flowEntry
        match ← peek? with
        | some .flowSequenceEnd => do
            skip
            return []
        | some .key => do
            skip
            let pair ← flowPair handles fuel
            return pair :: (← flowItems handles fuel false)
        | _ => do
            let item ← node handles fuel .flow
            return item :: (← flowItems handles fuel false)

/-- Reads the mapping of one entry that a key begins inside a flow sequence. When the key is
missing, the token that shows it is passed over. -/
def flowPair (handles : Handles) : (fuel : Nat) → Reader Node
  | 0 => failure
  | fuel + 1 => do
      let key ←
        if ← seesOneOf [.value, .flowEntry, .flowSequenceEnd] then do
          skip
          pure .empty
        else node handles fuel .flow
      let value ←
        if ← seesOneOf [.value] then do
          skip
          nodeUnless handles fuel [.flowEntry, .flowSequenceEnd] .flow
        else pure .empty
      return .mapping .none [(key, value)]

/-- Reads the entries of a flow mapping; a comma stands before each but the first. -/
def flowEntries (handles : Handles) : (fuel : Nat) → (first : Bool) → Reader (List (Node × Node))
  | 0, _ => failure
  | fuel + 1, first => do
      if ← seesOneOf [.flowMappingEnd] then do
        skip
        return []
      else
        if !first then expect .flowEntry
        match ← peek? with
        | some .flowMappingEnd => do
            skip
            return []
        | some .key => do
            skip
            let key ← nodeUnless handles fuel [.value, .flowEntry, .flowMappingEnd] .flow
            let value ←
              if ← seesOneOf [.value] then do
                skip
                nodeUnless handles fuel [.flowEntry, .flowMappingEnd] .flow
              else pure .empty
            return (key, value) :: (← flowEntries handles fuel false)
        | _ => do
            let key ← node handles fuel .flow
            return (key, .empty) :: (← flowEntries handles fuel false)

end

def defaultHandles : Handles :=
  [("!", Address.ofText ['!']), ("!!", Address.ofText "tag:yaml.org,2002:".toList)]

/-- Reads directives: at most one version, which is 1.1 or 1.2, and no handle twice. -/
def directives : (fuel : Nat) → (versioned : Bool) → (handles : Handles) → Reader Handles
  | 0, _, _ => failure
  | fuel + 1, versioned, handles => do
      match ← peek? with
      | some (.version major minor) =>
          if versioned || major != 1 || (minor != 1 && minor != 2) then failure
          else do
            skip
            directives fuel true handles
      | some (.tagHandle handle address) =>
          if (handles.lookup handle).isSome then failure
          else do
            skip
            directives fuel versioned ((handle, address) :: handles)
      | _ => return handles

/-- Whether the next token shows that a document has no content. -/
def lacksContent : Reader Bool := do
  match ← peek? with
  | none => return true
  | some token =>
      match token with
      | .version _ _ | .tagHandle _ _ | .documentStart | .documentEnd => return true
      | _ => return false

/-- Whether a document begins by directives or a marker. -/
def beginsExplicitly : Token → Bool
  | .version _ _ | .tagHandle _ _ | .documentStart => true
  | _ => false

def firstDocument (fuel : Nat) : Reader Node := do
  if (← peek?).any beginsExplicitly then
    let handles ← directives fuel false []
    expect .documentStart
    if ← lacksContent then return .empty
    else node (handles ++ defaultHandles) fuel .blockItem
  else node defaultHandles fuel .blockItem

end Grammar

/-- The document of a token list, inner `none` when there is no token at all. A second document
is refused. -/
def document? (tokens : List Token) : Option (Option Document) :=
  if tokens.isEmpty then some none
  else do
    let fuel := 3 * tokens.length + 3
    let (root, reading) ← (Grammar.firstDocument fuel).run ⟨tokens, []⟩
    if reading.tokens.all (· == .documentEnd) then some (some ⟨root⟩) else none

end SlideDeck.Yaml
