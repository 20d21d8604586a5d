import Casebook.Yaml.Tag
import Casebook.Yaml.Token

/-!
# YAML nodes

The tokens of one document are put together into nodes: scalars, sequences and maps, each known by
its place in the order in which they were begun. An alias stands for the node with its anchor, also
within that node itself, so the nodes of a document make a graph and not only a tree. Tokens are
read one by one as they are needed.
-/

namespace Casebook.Yaml

/-- What a node is made of; other nodes are named by their places. -/
inductive Body
  | scalar (text : Text)
  | sequence (items : List Nat)
  | map (entries : List (Nat × Nat))
deriving Repr

/-- A node of a document and the tag that says what it holds. -/
structure Node where
  tag : Tag
  body : Body
deriving Repr

/-- A node without any text. -/
def Node.empty : Node := ⟨.null, .scalar ""⟩

instance : Inhabited Node := ⟨.empty⟩

/-- The nodes of a document by their places. -/
structure Graph where
  nodes : Array Node
  /-- The place of the node that is the whole document. -/
  root : Nat
deriving Repr

/-- What is left of the text, the nodes that were begun, the places of those with anchors, and the
handles of tags. -/
structure Feed where
  scanner : Scanner
  nodes : Array Node
  anchors : List (String × Nat)
  handles : List (String × String)
  /-- How many more nodes may be inside of each other. -/
  room : Nat

/-- A step that takes tokens from the feed or is refused. -/
abbrev Build := StateT Feed (Except Halt)

namespace Build

/-- Reading halts with a fault. -/
def halt {α : Type} (fault : Fault) : Build α := do
  (← get).scanner.cursor.halt fault

def refuse {α : Type} : Build α := halt .malformed

/-- The next token, which stays in the feed; none at the end of the text. -/
def peek : Build (Option Token) := do
  let scanner ← (← get).scanner.ready
  modify fun f => { f with scanner }
  return scanner.next?

/-- The next token is one of these. -/
def sees (ts : List Token) : Build Bool := do
  match ← peek with
  | some t => return ts.contains t
  | none => return false

def drop : Build Unit := modify fun f => { f with scanner := f.scanner.drop }

/-- Takes the next token if it is the given one. -/
def accept (t : Token) : Build Bool := do
  if ← sees [t] then
    drop
    return true
  return false

/-- Takes the next token, which must be the given one. -/
def expect (t : Token) : Build Unit := do
  if !(← accept t) then refuse

/-! ## Nodes and anchors -/

/-- Goes into a node, unless too many are around it. -/
def goInto : Build Unit := do
  if (← get).room = 0 then halt .tooDeep

/-- The place of the node with an anchor. -/
def resolve (name : String) : Build Nat := do
  goInto
  match (← get).anchors.lookup name with
  | some place => return place
  | none => refuse

/-- Begins a node, and gives it an anchor, which must be new. -/
def begin (anchor : Option String) (tag : Tag) (body : Body) : Build Nat := do
  goInto
  let f ← get
  let place := f.nodes.size
  let anchors ← match anchor with
    | none => pure f.anchors
    | some a =>
      if (f.anchors.lookup a).isSome then refuse
      else pure ((a, place) :: f.anchors)
  modify fun f => { f with nodes := f.nodes.push ⟨tag, body⟩, anchors }
  return place

/-- Begins a collection. -/
def beginCollection (anchor : Option String) (tag : Tag) (body : Body) : Build Nat := do
  let place ← begin anchor tag body
  modify fun f => { f with room := f.room - 1 }
  return place

/-- Completes a collection with what it is made of. -/
def complete (place : Nat) (body : Body) : Build Nat := do
  modify fun f =>
    { f with
      nodes := f.nodes.modify place fun n => { n with body }
      room := f.room + 1 }
  return place

/-- A node without any text. -/
def empty : Build Nat := begin none Node.empty.tag Node.empty.body

/-- A sequence, its items read by a step. -/
def sequence (anchor : Option String) (tag : Tag) (items : Build (List Nat)) : Build Nat := do
  let place ← beginCollection anchor tag (.sequence [])
  complete place (.sequence (← items))

/-- A map, its entries read by a step. -/
def map (anchor : Option String) (tag : Tag) (entries : Build (List (Nat × Nat))) :
    Build Nat := do
  let place ← beginCollection anchor tag (.map [])
  complete place (.map (← entries))

/-- Anchor and tag in front of a node. -/
structure Marks where
  anchor : Option String
  /-- The full name of the tag. -/
  tag : Option String

def takeAnchor : Build (Option String) := do
  match ← peek with
  | some (.anchor a) => drop; return some a
  | _ => return none

/-- Takes a tag, which may have a handle. -/
def takeTag : Build (Option (Option String × String)) := do
  match ← peek with
  | some (.tag handle rest) => drop; return some (handle, rest)
  | _ => return none

/-- The full name of a tag, its handle replaced. -/
def fullName : Option (Option String × String) → Build (Option String)
  | none => return none
  | some (none, rest) => return some rest
  | some (some handle, rest) => do
    match (← get).handles.lookup handle with
    | some start => return some (start ++ rest)
    | none => refuse

/-- Takes anchor and tag in any order. -/
def takeMarks : Build Marks := do
  match ← takeAnchor with
  | some a => return ⟨some a, ← fullName (← takeTag)⟩
  | none =>
    let tag ← takeTag
    let anchor ← if tag.isSome then takeAnchor else pure none
    return ⟨anchor, ← fullName tag⟩

/-- The tag of a collection; an exclamation mark alone says nothing. -/
def Marks.collectionTag (m : Marks) (usual : Tag) : Tag :=
  match m.tag with
  | none => usual
  | some "!" => usual
  | some t => Tag.ofName t

/-- The tag of a scalar. -/
def Marks.scalarTag (m : Marks) (text : Text) (plain : Bool) : Tag :=
  match m.tag with
  | none => if plain then Tag.implicit text else .text
  | some "!" => Tag.implicit text
  | some t => Tag.ofName t

mutual

/-- Takes one node. A sequence without indentation may stand as key or value of a map. -/
def node : (fuel : Nat) → (block indentless : Bool) → Build Nat
  | 0, _, _ => refuse
  | fuel + 1, block, indentless => do
    match ← peek with
    | some (.alias a) =>
      drop
      resolve a
    | _ =>
      let marks ← takeMarks
      let sequenceTag := marks.collectionTag .sequence
      let mapTag := marks.collectionTag .map
      match ← peek with
      | some .entry =>
        if indentless then sequence marks.anchor sequenceTag (looseItems fuel)
        else bare marks
      | some (.scalar text plain) =>
        drop
        begin marks.anchor (marks.scalarTag text plain) (.scalar text)
      | some .flowSequence =>
        drop
        sequence marks.anchor sequenceTag (flowItems fuel true)
      | some .flowMap =>
        drop
        map marks.anchor mapTag (flowEntries fuel true)
      | some .blockSequence =>
        if block then
          drop
          sequence marks.anchor sequenceTag (blockItems fuel)
        else bare marks
      | some .blockMap =>
        if block then
          drop
          map marks.anchor mapTag (blockEntries fuel)
        else bare marks
      | _ => bare marks
where
  /-- A node that consists of its anchor or tag alone. -/
  bare (marks : Marks) : Build Nat := do
    if marks.anchor.isNone && marks.tag.isNone then refuse
    begin marks.anchor (marks.scalarTag "" true) (.scalar "")

/-- A node, or an empty one if the next token ends it at once. -/
def nodeUnless : (fuel : Nat) → (ends : List Token) → (block indentless : Bool) → Build Nat
  | 0, _, _, _ => refuse
  | fuel + 1, ends, block, indentless => do
    if ← sees ends then empty
    else node fuel block indentless

/-- The value behind a key, which is empty without a colon. -/
def valueUnless : (fuel : Nat) → (ends : List Token) → (block indentless : Bool) → Build Nat
  | 0, _, _, _ => refuse
  | fuel + 1, ends, block, indentless => do
    if ← accept .value then nodeUnless fuel ends block indentless
    else empty

/-- The items of a block sequence up to its end. -/
def blockItems : (fuel : Nat) → Build (List Nat)
  | 0 => refuse
  | fuel + 1 => do
    if ← accept .entry then
      let item ← nodeUnless fuel [.entry, .blockEnd] true false
      return item :: (← blockItems fuel)
    expect .blockEnd
    return []

/-- The items of a sequence without indentation. -/
def looseItems : (fuel : Nat) → Build (List Nat)
  | 0 => refuse
  | fuel + 1 => do
    if ← accept .entry then
      let item ← nodeUnless fuel [.entry, .key, .value, .blockEnd] true false
      return item :: (← looseItems fuel)
    return []

/-- The entries of a block map up to its end. -/
def blockEntries : (fuel : Nat) → Build (List (Nat × Nat))
  | 0 => refuse
  | fuel + 1 => do
    let ends := [Token.key, .value, .blockEnd]
    if ← accept .key then
      let key ← nodeUnless fuel ends true true
      let value ← valueUnless fuel ends true true
      return (key, value) :: (← blockEntries fuel)
    expect .blockEnd
    return []

/-- The items of a bracketed sequence. A key in it makes a map of one entry. -/
def flowItems : (fuel : Nat) → (first : Bool) → Build (List Nat)
  | 0, _ => refuse
  | fuel + 1, first => do
    if ← accept .flowSequenceEnd then return []
    if !first then
      expect .comma
    if ← accept .key then
      let pair := do
        let key ← nodeUnless fuel [.value, .comma, .flowSequenceEnd] false false
        return [(key, ← valueUnless fuel [.comma, .flowSequenceEnd] false false)]
      let item ← map none .map pair
      return item :: (← flowItems fuel false)
    if ← accept .flowSequenceEnd then return []
    let item ← node fuel false false
    return item :: (← flowItems fuel false)

/-- The entries of a bracketed map. -/
def flowEntries : (fuel : Nat) → (first : Bool) → Build (List (Nat × Nat))
  | 0, _ => refuse
  | fuel + 1, first => do
    if ← accept .flowMapEnd then return []
    if !first then
      expect .comma
    if ← accept .key then
      let key ← nodeUnless fuel [.value, .comma, .flowMapEnd] false false
      let value ← valueUnless fuel [.comma, .flowMapEnd] false false
      return (key, value) :: (← flowEntries fuel false)
    if ← accept .flowMapEnd then return []
    let key ← node fuel false false
    let value ← empty
    return (key, value) :: (← flowEntries fuel false)

end

/-- The handles of tags that need no instruction. -/
def usualHandles : List (String × String) := [("!", "!"), ("!!", Tag.space)]

/-- Takes the instructions in front of a document; `version` says that the version was given. -/
def directives : (fuel : Nat) → (version : Bool) → Build Unit
  | 0, _ => refuse
  | fuel + 1, version => do
    match ← peek with
    | some (.directive d) =>
      drop
      match d with
      | .version major =>
        if version || major != 1 then refuse
        directives fuel true
      | .tag handle start =>
        if ((← get).handles.lookup handle).isSome then refuse
        modify fun f => { f with handles := f.handles ++ [(handle, start)] }
        directives fuel version
      | .other => directives fuel version
    | _ => pure ()

/-- Takes marks of the end of a document. -/
def documentEnds : (fuel : Nat) → Build Unit
  | 0 => refuse
  | fuel + 1 => do
    if ← accept .documentEnd then documentEnds fuel

/-- Takes the instructions and the mark at the beginning of a document. -/
def documentStart (fuel : Nat) : Build Unit := do
  documentEnds fuel
  directives fuel false
  modify fun f => { f with handles := f.handles ++ usualHandles }
  expect .documentStart

/-- A directive or a mark between documents. -/
def isMark : Token → Bool
  | .directive _ | .documentStart | .documentEnd => true
  | _ => false

/-- Takes the only document, if there is one. -/
def document (fuel : Nat) : Build (Option Nat) := do
  match ← peek with
  | none => return none
  | some first =>
    let root ← match first with
      | .directive _ | .documentStart => do
        documentStart fuel
        match ← peek with
        | none => empty
        | some t => if isMark t then empty else node fuel true false
      | _ => do
        modify fun f => { f with handles := usualHandles }
        node fuel true false
    documentEnds fuel
    if (← peek).isSome then
      documentStart fuel
      refuse
    return some root

end Build

/-- How many steps per character of a document are enough to take all its tokens: a character ends
at most four tokens, and none takes more than four steps. -/
def stepsPerCharacter : Nat := 16

/-- The nodes of the only document in a text, if there is one. At most so many nodes may be inside
of each other. -/
def Graph.ofText (levels : Nat) (text : List Char) : Except Halt (Option Graph) := do
  let fuel := stepsPerCharacter * (text.length + 2)
  let (root, feed) ← (Build.document fuel).run ⟨Scanner.start text, #[], [], [], levels⟩
  return root.map fun root => ⟨feed.nodes, root⟩

end Casebook.Yaml
