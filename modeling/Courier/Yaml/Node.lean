import Courier.Text.Surrogate
import Courier.Yaml.Token
import Courier.Yaml.Tag

/-!
# Nodes

Tokens put together to the one node of a document: a scalar, a sequence or a mapping, each with its
tag. A name given to a node can be used later in its place; each name is given once.
-/

namespace Courier.Yaml

/-- A node. An alias to a node that it stands in is `endless`. -/
inductive Node where
  | scalar (tag : Tag) (text : List Nat)
  | sequence (tag : Tag) (items : List Node)
  | mapping (tag : Tag) (entries : List (Node × Node))
  | endless
  deriving Inhabited

namespace Node

/-- The state of building: the tokens that are left, the prefixes of tags by their handles, and the
nodes with names, those that are not finished without a node. -/
structure Builder where
  tokens : List Token
  handles : List (String × String)
  anchors : List (String × Option Node)

/-- A step of building. -/
abbrev Build := StateT Builder (Except Error)

/-- The next token. -/
def peek : Build (Option Token) := do return (← get).tokens.head?

/-- Drops the next token. -/
def drop : Build Unit := modify fun b => { b with tokens := b.tokens.drop 1 }

/-- Refuses the text. -/
def refuse {α : Type} : Build α := throw .malformed

/-- Whether the next token is one of some. -/
def nextIs (ts : List Token) : Build Bool := do
  match ← peek with
  | some t => return ts.contains t
  | none => return false

/-- Drops a token that has to come next. -/
def expect (t : Token) : Build Unit := do
  if (← peek) = some t then drop else refuse

/-- An empty scalar without a tag. -/
def empty : Node := .scalar .null []

/-- The name and the tag before a node, in either order. -/
def properties : Build (Option String × Option String) := do
  match ← peek with
  | some (.anchor name) =>
    drop
    match ← peek with
    | some (.tag handle suffix) =>
      drop
      return (some name, some (← fullTag handle suffix))
    | _ => return (some name, none)
  | some (.tag handle suffix) =>
    drop
    match ← peek with
    | some (.anchor name) =>
      drop
      return (some name, some (← fullTag handle suffix))
    | _ => return (none, some (← fullTag handle suffix))
  | _ => return (none, none)
where
  /-- A tag with the prefix that its handle stands for. -/
  fullTag (handle : Option String) (suffix : String) : Build String := do
    match handle with
    | none => return suffix
    | some h =>
      match (← get).handles.find? fun p => p.1 == h with
      | some p => return p.2 ++ suffix
      | none => refuse

/-- The tag of a scalar. -/
def scalarTag (tag : Option String) (plain : Bool) (text : List Nat) : Tag :=
  if (plain && tag.isNone) || tag == some "!" then
    if text.any Text.isSurrogate then .text
    else .ofPlain (String.ofList (text.map Char.ofNat))
  else
    match tag with
    | none => .text
    | some t => .ofName t

/-- The tag of a collection. -/
def collectionTag (tag : Option String) (default : Tag) : Tag :=
  match tag with
  | none => default
  | some t => if t = "!" then default else .ofName t

/-- Announces a name, which must be new. -/
def openAnchor (name : Option String) : Build Unit := do
  match name with
  | none => return ()
  | some n =>
    if (← get).anchors.any fun a => a.1 == n then refuse
    else modify fun b => { b with anchors := (n, none) :: b.anchors }

/-- Gives the node to its name. -/
def closeAnchor (name : Option String) (node : Node) : Build Node := do
  match name with
  | none => return node
  | some n =>
    modify fun b =>
      { b with anchors := b.anchors.map fun a => if a.1 = n then (n, some node) else a }
    return node

mutual

/-- A node. Sequences and mappings in blocks are read only where `block` allows them, a sequence
without its own indentation only where `indentless` does. -/
def node (block indentless : Bool) : Nat → Build Node
  | 0 => refuse
  | fuel + 1 => do
    match ← peek with
    | some (.alias name) =>
      drop
      match (← get).anchors.find? fun a => a.1 == name with
      | some (_, some n) => return n
      | some (_, none) => return .endless
      | none => refuse
    | _ =>
      let (name, tag) ← properties
      openAnchor name
      match ← peek with
      | some .blockEntry =>
        if indentless then
          closeAnchor name (.sequence (collectionTag tag .list) (← indentlessItems fuel))
        else bare name tag
      | some (.scalar text plain) =>
        drop
        closeAnchor name (.scalar (scalarTag tag plain text) text)
      | some .flowSequenceStart =>
        drop
        closeAnchor name (.sequence (collectionTag tag .list) (← flowItems true fuel))
      | some .flowMappingStart =>
        drop
        closeAnchor name (.mapping (collectionTag tag .map) (← flowEntries true fuel))
      | some .blockSequenceStart =>
        if block then
          drop
          closeAnchor name (.sequence (collectionTag tag .list) (← blockItems fuel))
        else bare name tag
      | some .blockMappingStart =>
        if block then
          drop
          closeAnchor name (.mapping (collectionTag tag .map) (← blockEntries fuel))
        else bare name tag
      | _ => bare name tag
where
  /-- A node of which only the name or the tag is written. -/
  bare (name tag : Option String) : Build Node :=
    if name.isSome || tag.isSome then
      closeAnchor name (.scalar (scalarTag tag (tag.isNone || tag == some "!") []) [])
    else refuse

/-- A node, or an empty one before any of the given tokens. -/
def nodeUnless (block indentless : Bool) (ends : List Token) : Nat → Build Node
  | 0 => refuse
  | fuel + 1 => do
    if ← nextIs ends then return empty else node block indentless fuel

/-- The items of a block sequence. -/
def blockItems : Nat → Build (List Node)
  | 0 => refuse
  | fuel + 1 => do
    match ← peek with
    | some .blockEntry =>
      drop
      let item ← nodeUnless true false [.blockEntry, .blockEnd] fuel
      return item :: (← blockItems fuel)
    | _ =>
      expect .blockEnd
      return []

/-- The items of a sequence that is not indented further than its mapping. -/
def indentlessItems : Nat → Build (List Node)
  | 0 => refuse
  | fuel + 1 => do
    match ← peek with
    | some .blockEntry =>
      drop
      let item ← nodeUnless true false [.blockEntry, .key, .value, .blockEnd] fuel
      return item :: (← indentlessItems fuel)
    | _ => return []

/-- The entries of a block mapping. -/
def blockEntries : Nat → Build (List (Node × Node))
  | 0 => refuse
  | fuel + 1 => do
    let ends := [Token.key, .value, .blockEnd]
    match ← peek with
    | some .key =>
      drop
      let k ← nodeUnless true true ends fuel
      let v ←
        if (← peek) = some .value then
          drop
          nodeUnless true true ends fuel
        else pure empty
      return (k, v) :: (← blockEntries fuel)
    | _ =>
      expect .blockEnd
      return []

/-- The items of a flow sequence; an item with a colon is a mapping of one entry. -/
def flowItems (first : Bool) : Nat → Build (List Node)
  | 0 => refuse
  | fuel + 1 => do
    if (← peek) = some .flowSequenceEnd then
      drop
      return []
    if !first then expect .flowEntry
    let ends := [Token.flowEntry, .flowSequenceEnd]
    match ← peek with
    | some .flowSequenceEnd =>
      drop
      return []
    | some .key =>
      drop
      let k ← nodeUnless false false (.value :: ends) fuel
      let v ←
        if (← peek) = some .value then
          drop
          nodeUnless false false ends fuel
        else pure empty
      return .mapping .map [(k, v)] :: (← flowItems false fuel)
    | _ =>
      let item ← node false false fuel
      return item :: (← flowItems false fuel)

/-- The entries of a flow mapping. -/
def flowEntries (first : Bool) : Nat → Build (List (Node × Node))
  | 0 => refuse
  | fuel + 1 => do
    if (← peek) = some .flowMappingEnd then
      drop
      return []
    if !first then expect .flowEntry
    let ends := [Token.flowEntry, .flowMappingEnd]
    match ← peek with
    | some .flowMappingEnd =>
      drop
      return []
    | some .key =>
      drop
      let k ← nodeUnless false false (.value :: ends) fuel
      let v ←
        if (← peek) = some .value then
          drop
          nodeUnless false false ends fuel
        else pure empty
      return (k, v) :: (← flowEntries false fuel)
    | _ =>
      let k ← node false false fuel
      return (k, empty) :: (← flowEntries false fuel)

end

/-- The handles that need no directive. -/
def standardHandles : List (String × String) := [("!", "!"), ("!!", Tag.standard)]

/-- Takes directives; each counts once. -/
def directives : Nat → Bool → List (String × String) → Build (List (String × String))
  | 0, _, handles => return handles
  | fuel + 1, versioned, handles => do
    match ← peek with
    | some (.versionDirective major) =>
      drop
      if versioned || major != 1 then refuse else directives fuel true handles
    | some (.tagDirective handle tagPrefix) =>
      drop
      if handles.any fun h => h.1 == handle then refuse
      else directives fuel versioned ((handle, tagPrefix) :: handles)
    | some .otherDirective =>
      drop
      directives fuel versioned handles
    | _ => return handles

/-- Drops marks at the end of a document. -/
def documentEnds : Nat → Build Unit
  | 0 => return ()
  | fuel + 1 => do
    if (← peek) = some .documentEnd then
      drop
      documentEnds fuel

/-- Whether the next token begins the head of a document, or there is none. -/
def atHead : Build Bool := do
  match ← peek with
  | none => return true
  | some (.versionDirective _) => return true
  | some (.tagDirective _ _) => return true
  | some .otherDirective => return true
  | some .documentStart => return true
  | _ => return false

/-- The node of the one document of a text; none where the text has no document. -/
def document : Build (Option Node) := do
  let size := (← get).tokens.length
  let fuel := 3 * size + 3
  if ← atHead then
    documentEnds size
    if (← peek).isNone then return none
    let own ← directives size false []
    modify fun b => { b with handles := own ++ standardHandles }
    expect .documentStart
    let n ← if (← atHead) || (← peek) == some .documentEnd then pure empty else node true false fuel
    finish n
  else
    let n ← node true false fuel
    finish n
where
  /-- Requires that nothing follows but marks of its end. -/
  finish (n : Node) : Build (Option Node) := do
    documentEnds ((← get).tokens.length + 1)
    if (← peek).isNone then return some n else refuse

/-- The node of a text. -/
def ofText (cs : List Char) : Except Error (Option Node) := do
  let ts ← Yaml.tokens cs
  let (n, _) ← document.run ⟨ts, standardHandles, []⟩
  return n

end Node

end Courier.Yaml
