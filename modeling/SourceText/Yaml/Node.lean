import SourceText.Yaml.Lexer
import SourceText.Yaml.Tag

/-!
# Nodes of a YAML document

The tree of nodes that the tokens of a text make, with a tag at every node and with every alias
replaced by the node that it names.
-/

namespace SourceText.Yaml

/-- A node. -/
inductive Node where
  | scalar (tag : Tag) (text : RawText)
  | sequence (tag : Tag) (items : List Node)
  | mapping (tag : Tag) (entries : List (Node × Node))
  deriving Repr

/-- What is left to read: the tokens, the nodes that have a name, and the handles of tags. The node
of a name is missing while it is being read. -/
structure NodeReader where
  tokens : List Token
  names : List (Text × Option Node) := []
  handles : List (Text × Text) := []

/-- A reading step. -/
abbrev Reading (α : Type) : Type := StateT NodeReader (Except Fault) α

namespace Reading

/-- Fails with a fault. -/
def fail {α : Type} (fault : Fault) : Reading α := fun _ => .error fault

/-- The next token; the end of the text comes again and again. -/
def peek : Reading Token := do return (← get).tokens.headD .streamEnd

/-- Goes past the next token. -/
def skip : Reading Unit := modify fun r => { r with tokens := r.tokens.drop 1 }

/-- Goes past the next token if it is the given one. -/
def skipIf (t : Token) : Reading Bool := do
  if (← peek) = t then
    skip
    return true
  else return false

/-- Whether the next token is one of the given ones. -/
def nextIsIn (ts : List Token) : Reading Bool := do return ts.contains (← peek)

end Reading

open Reading

/-- The node of a missing value. -/
def Node.missing : Node := .scalar .null []

/-- A tag and a name in front of a node, as far as they are given. -/
structure Properties where
  anchor : Option Text := none
  tag : Option (Option Text × Text) := none

/-- The name in front of a node. -/
def readAnchor : Reading (Option Text) := do
  match ← peek with
  | .anchor name =>
    skip
    return some name
  | _ => return none

/-- The tag in front of a node. -/
def readNodeTag : Reading (Option (Option Text × Text)) := do
  match ← peek with
  | .tag handle suffix =>
    skip
    return some (handle, suffix)
  | _ => return none

/-- The tag and the name in front of a node, in either order. -/
def readProperties : Reading Properties := do
  match ← readAnchor with
  | some anchor => return ⟨some anchor, ← readNodeTag⟩
  | none =>
    let tag ← readNodeTag
    let anchor ← if tag.isSome then readAnchor else pure none
    return ⟨anchor, tag⟩

/-- The address of a tag with its handle replaced. -/
def tagAddress : Option Text × Text → Reading Text
  | (none, suffix) => return suffix
  | (some handle, suffix) => do
    match (← get).handles.lookup handle with
    | some start => return start ++ suffix
    | none => fail .grammar

/-- Keeps a name for a node that is about to be read. -/
def startNaming (name : Text) : Reading Unit := do
  if ((← get).names.lookup name).isSome then fail .anchor
  else modify fun r => { r with names := (name, none) :: r.names }

/-- Gives a node its name. -/
def finishNaming (name : Text) (node : Node) : Reading Unit :=
  modify fun r => { r with names := (name, some node) :: r.names }

/-- The tag of a collection: the given one, or that of its kind. -/
def collectionTag (given : Option Text) (kind : Tag) : Tag :=
  match given with
  | none => kind
  | some address => if address = ['!'] then kind else Tag.ofAddress address

/-- The tag of a scalar: the given one; else by its form if it is plain or has the lone mark; else
that of texts. -/
def scalarTag (given : Option Text) (plain : Bool) (text : RawText) : Tag :=
  match given with
  | none => if plain then Tag.ofPlain text.shown else .str
  | some address => if address = ['!'] then Tag.ofPlain text.shown else Tag.ofAddress address

mutual

/-- A node. Blocks may stand here if `block` holds, and a sequence whose dashes are not indented if
`indentless` does. `fuel` bounds the nesting and the number of items. -/
def readNode : (fuel : Nat) → (block indentless : Bool) → Reading Node
  | 0, _, _ => fail .grammar
  | fuel + 1, block, indentless => do
    match ← peek with
    | .alias name =>
      skip
      match (← get).names.lookup name with
      | some (some node) => return node
      | _ => fail .anchor
    | _ =>
      let properties ← readProperties
      let address ← properties.tag.mapM tagAddress
      properties.anchor.forM startNaming
      let node ← readContent fuel block indentless address properties
      properties.anchor.forM (finishNaming · node)
      return node

/-- The content of a node behind its tag and name. -/
def readContent : (fuel : Nat) → (block indentless : Bool) → Option Text → Properties → Reading Node
  | 0, _, _, _, _ => fail .grammar
  | fuel + 1, block, indentless, address, properties => do
    match ← peek with
    | .scalar text plain =>
      skip
      return .scalar (scalarTag address plain text) text
    | .flowSequenceStart =>
      skip
      return .sequence (collectionTag address .seq) (← readFlowItems fuel true)
    | .flowMappingStart =>
      skip
      return .mapping (collectionTag address .map) (← readFlowEntries fuel true)
    | next =>
      if indentless && next = .blockEntry then
        return .sequence (collectionTag address .seq) (← readIndentlessItems fuel)
      else if block && next = .blockSequenceStart then
        skip
        return .sequence (collectionTag address .seq) (← readBlockItems fuel)
      else if block && next = .blockMappingStart then
        skip
        return .mapping (collectionTag address .map) (← readBlockEntries fuel)
      else if properties.anchor.isSome || properties.tag.isSome then
        return .scalar (scalarTag address true []) []
      else fail .grammar

/-- A node, or the missing one in front of the given tokens. -/
def readUnless : (fuel : Nat) → (block indentless : Bool) → List Token → Reading Node
  | 0, _, _, _ => fail .grammar
  | fuel + 1, block, indentless, stops => do
    if ← nextIsIn stops then return .missing else readNode fuel block indentless

/-- The items of a block up to its end. -/
def readBlockItems : (fuel : Nat) → Reading (List Node)
  | 0 => fail .grammar
  | fuel + 1 => do
    if ← skipIf .blockEntry then
      let item ← readUnless fuel true false [.blockEntry, .blockEnd]
      return item :: (← readBlockItems fuel)
    else if ← skipIf .blockEnd then return []
    else fail .grammar

/-- Items with dashes in the column of the key before them. -/
def readIndentlessItems : (fuel : Nat) → Reading (List Node)
  | 0 => fail .grammar
  | fuel + 1 => do
    if ← skipIf .blockEntry then
      let item ← readUnless fuel true false [.blockEntry, .key, .value, .blockEnd]
      return item :: (← readIndentlessItems fuel)
    else return []

/-- The entries of a block up to its end. -/
def readBlockEntries : (fuel : Nat) → Reading (List (Node × Node))
  | 0 => fail .grammar
  | fuel + 1 => do
    let stops : List Token := [.key, .value, .blockEnd]
    if ← skipIf .blockEnd then return []
    else
      let key ← if ← skipIf .key then readUnless fuel true true stops else fail .grammar
      let value ←
        if ← skipIf .value then readUnless fuel true true stops else pure .missing
      return (key, value) :: (← readBlockEntries fuel)

/-- The items of a sequence in brackets up to its end; commas stand between them. -/
def readFlowItems : (fuel : Nat) → (first : Bool) → Reading (List Node)
  | 0, _ => fail .grammar
  | fuel + 1, first => do
    if ← skipIf .flowSequenceEnd then return []
    else
      if !first && !(← skipIf .flowEntry) then fail .grammar
      if ← skipIf .flowSequenceEnd then return []
      else
        let item ←
          if ← skipIf .key then
            let stops : List Token := [.value, .flowEntry, .flowSequenceEnd]
            let key ← readUnless fuel false false stops
            let value ←
              if ← skipIf .value then
                readUnless fuel false false [.flowEntry, .flowSequenceEnd]
              else pure .missing
            pure (.mapping .map [(key, value)])
          else readNode fuel false false
        return item :: (← readFlowItems fuel false)

/-- The entries of a mapping in braces up to its end; commas stand between them. -/
def readFlowEntries : (fuel : Nat) → (first : Bool) → Reading (List (Node × Node))
  | 0, _ => fail .grammar
  | fuel + 1, first => do
    if ← skipIf .flowMappingEnd then return []
    else
      if !first && !(← skipIf .flowEntry) then fail .grammar
      if ← skipIf .flowMappingEnd then return []
      else
        let entry ←
          if ← skipIf .key then
            let key ← readUnless fuel false false [.value, .flowEntry, .flowMappingEnd]
            let value ←
              if ← skipIf .value then
                readUnless fuel false false [.flowEntry, .flowMappingEnd]
              else pure .missing
            pure (key, value)
          else pure (← readNode fuel false false, .missing)
        return entry :: (← readFlowEntries fuel false)

end

/-- The directives in front of a document. -/
def readDirectives : (fuel : Nat) → (versioned : Bool) → Reading Unit
  | 0, _ => fail .grammar
  | fuel + 1, versioned => do
    match ← peek with
    | .versionDirective major =>
      skip
      if versioned || major != 1 then fail .grammar
      readDirectives fuel true
    | .tagDirective handle uri =>
      skip
      if ((← get).handles.lookup handle).isSome then fail .grammar
      modify fun r => { r with handles := (handle, uri) :: r.handles }
      readDirectives fuel versioned
    | .otherDirective =>
      skip
      readDirectives fuel versioned
    | _ => return ()

/-- The handles that every document has unless it gives them another meaning. -/
def addStandardHandles : Reading Unit :=
  modify fun r =>
    { r with handles := r.handles ++ [(['!'], ['!']), (['!', '!'], Tag.base.toList)] }

/-- Goes past the marks of the end of a document. -/
def skipDocumentEnds : (fuel : Nat) → Reading Unit
  | 0 => return ()
  | fuel + 1 => do
    if ← skipIf .documentEnd then skipDocumentEnds fuel

/-- Whether the next token belongs to the head of a document. -/
def atDocumentHead : Reading Bool := do
  match ← peek with
  | .versionDirective _ => return true
  | .tagDirective .. => return true
  | .otherDirective => return true
  | .documentStart => return true
  | _ => return false

/-- The only document of a text, if it has one. -/
def readDocument (fuel : Nat) : Reading (Option Node) := do
  if (← peek) = .streamEnd then return none
  else
    let node ←
      if ← atDocumentHead then
        readDirectives fuel false
        addStandardHandles
        if !(← skipIf .documentStart) then fail .grammar
        if (← atDocumentHead) || (← nextIsIn [.documentEnd, .streamEnd]) then
          pure Node.missing
        else readNode fuel true false
      else
        addStandardHandles
        readNode fuel true false
    skipDocumentEnds fuel
    if (← peek) = .streamEnd then return some node else fail .grammar

/-- The node of a text, if it holds one. -/
def Node.ofText (text : Text) : Except Fault (Option Node) := do
  let tokens ← tokenize text
  (readDocument (2 * tokens.length + 8)).run' { tokens }

end SourceText.Yaml
