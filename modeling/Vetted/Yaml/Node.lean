import Vetted.Yaml.Scalar
import Vetted.Yaml.Token.Scan

namespace Vetted.Yaml

inductive Node where
  | scalar (tag : String) (text : String)
  | sequence (tag : String) (items : List Node)
  | mapping (tag : String) (entries : List (Node × Node))
  | broken (tag : String)
  | loop (anchor : String)
deriving Repr, Inhabited

namespace Node

def tag : Node → String
  | .scalar tag _ | .sequence tag _ | .mapping tag _ | .broken tag => tag
  | .loop _ => ""

mutual

def fill (anchor : String) (by_ : Node) : Node → Node
  | .sequence tag items => .sequence tag (fillItems anchor by_ items)
  | .mapping tag entries => .mapping tag (fillEntries anchor by_ entries)
  | .loop name => if name = anchor then by_ else .loop name
  | n => n

def fillItems (anchor : String) (by_ : Node) : List Node → List Node
  | [] => []
  | n :: rest => fill anchor by_ n :: fillItems anchor by_ rest

def fillEntries (anchor : String) (by_ : Node) : List (Node × Node) → List (Node × Node)
  | [] => []
  | (k, v) :: rest => (fill anchor by_ k, fill anchor by_ v) :: fillEntries anchor by_ rest

end

/-- How many times a collection is written out inside itself, which is deeper than settings are looked at. -/
def turns : Nat := 3

def unrolled (anchor : String) (n empty : Node) : Node :=
  (List.range turns).foldl (fun inner _ => fill anchor inner n) empty

end Node

/-- The state of building: the state of reading, the nodes that have names, and what the handles of tags stand for. -/
structure Building where
  scan : Scan
  anchors : List (String × Node) := []
  handles : List (String × String) := []

abbrev Builder := StateT Building (Except Fault)

namespace Builder

def fail {α : Type} : Builder α := fun _ => .error .malformed

def scan {α : Type} (s : Scanner α) : Builder α := fun b => do
  let (a, scan) ← s b.scan
  return (a, { b with scan })

def next? : Builder (Option Token) := scan Scanner.next?

def drop : Builder Unit := scan Scanner.drop

def accept (t : Token) : Builder Bool := do
  if (← next?) = some t then
    drop
    return true
  else return false

def sees (ts : List Token) : Builder Bool := return (← next?).any ts.contains

def empty : Node := .scalar Tag.null ""

def handlesByDefault : List (String × String) := [("!", "!"), ("!!", Tag.standard)]

def tagOf (handle : Option String) (suffix : String) : Builder String := do
  match handle with
  | none => return suffix
  | some handle =>
    match (← get).handles.lookup handle with
    | some start => return start ++ suffix
    | none => fail

def properties : Builder (Option String × Option String) := do
  match ← next? with
  | some (.anchor name) =>
    drop
    match ← next? with
    | some (.tag handle suffix) =>
      drop
      return (some name, some (← tagOf handle suffix))
    | _ => return (some name, none)
  | some (.tag handle suffix) =>
    drop
    match ← next? with
    | some (.anchor name) =>
      drop
      return (some name, some (← tagOf handle suffix))
    | _ => return (none, some (← tagOf handle suffix))
  | _ => return (none, none)

def isOpenTag (tag : Option String) : Bool := tag.isNone || tag = some "!"

def named (anchor : Option String) (node : Node) : Builder Unit :=
  match anchor with
  | some name => modify fun b => { b with anchors := (name, node) :: b.anchors }
  | none => return

def collection (anchor : Option String) (empty : Node) (build : Builder Node) : Builder Node := do
  match anchor with
  | none => build
  | some name =>
    named anchor (.loop name)
    let node := (← build).unrolled name empty
    named anchor node
    return node

def scalarOf (tag : Option String) (text : String) (plain : Bool) : Node :=
  match tag with
  | some "!" => .scalar (Tag.ofPlain text) text
  | some tag => .scalar tag text
  | none => .scalar (if plain then Tag.ofPlain text else Tag.str) text

def collectionTag (tag : Option String) (otherwise : String) : String :=
  if isOpenTag tag then otherwise else tag.getD otherwise

/-- Makes a name for a node that is about to be built; a name is given once. -/
def checkAnchor (anchor : Option String) : Builder Unit := do
  match anchor with
  | some name => if ((← get).anchors.lookup name).isSome then fail
  | none => return

mutual

/-- A node. In a block it may be a block collection, and `indentless` allows a sequence at the column of its key. -/
def node (inBlock indentless : Bool) : Nat → Builder Node
  | 0 => fail
  | fuel + 1 => do
    match ← next? with
    | some (.alias name) =>
      drop
      match (← get).anchors.lookup name with
      | some node => return node
      | none => fail
    | _ =>
      let (anchor, tag) ← properties
      let next ← next?
      checkAnchor anchor
      let sequenceOf (items : Builder (List Node)) : Builder Node :=
        let tag := collectionTag tag Tag.seq
        collection anchor (.sequence tag []) (do return .sequence tag (← items))
      let mappingOf (entries : Builder (List (Node × Node))) : Builder Node :=
        let tag := collectionTag tag Tag.map
        collection anchor (.mapping tag []) (do return .mapping tag (← entries))
      match next with
      | some .blockEntry => if indentless then sequenceOf (indentlessItems fuel) else bare anchor tag
      | some (.scalar text plain) =>
        drop
        let node := scalarOf tag text plain
        named anchor node
        return node
      | some .flowSequenceStart =>
        drop
        sequenceOf (flowItems true fuel)
      | some .flowMappingStart =>
        drop
        mappingOf (flowEntries true fuel)
      | some .blockSequenceStart =>
        if inBlock then
          drop
          sequenceOf (blockItems fuel)
        else bare anchor tag
      | some .blockMappingStart =>
        if inBlock then
          drop
          mappingOf (blockEntries fuel)
        else bare anchor tag
      | _ => bare anchor tag

def bare (anchor tag : Option String) : Builder Node := do
  if anchor.isNone && tag.isNone then fail
  let node := scalarOf tag "" true
  named anchor node
  return node

def nodeUnless (inBlock indentless : Bool) (ends : List Token) : Nat → Builder Node
  | 0 => fail
  | fuel + 1 => do if ← sees ends then return empty else node inBlock indentless fuel

def blockItems : Nat → Builder (List Node)
  | 0 => fail
  | fuel + 1 => do
    if ← accept .blockEntry then
      let item ← nodeUnless true false [.blockEntry, .blockEnd] fuel
      return item :: (← blockItems fuel)
    else if ← accept .blockEnd then return []
    else fail

def indentlessItems : Nat → Builder (List Node)
  | 0 => fail
  | fuel + 1 => do
    if ← accept .blockEntry then
      let item ← nodeUnless true false [.blockEntry, .key, .value, .blockEnd] fuel
      return item :: (← indentlessItems fuel)
    else return []

def blockEntries : Nat → Builder (List (Node × Node))
  | 0 => fail
  | fuel + 1 => do
    if ← accept .key then
      let key ← nodeUnless true true [.key, .value, .blockEnd] fuel
      let value ← if ← accept .value then nodeUnless true true [.key, .value, .blockEnd] fuel else pure empty
      return (key, value) :: (← blockEntries fuel)
    else if ← accept .blockEnd then return []
    else fail

def flowValue (closing : Token) : Nat → Builder Node
  | 0 => fail
  | fuel + 1 => do
    if ← accept .value then nodeUnless false false [.flowEntry, closing] fuel else return empty

def flowComma (first : Bool) : Builder Unit := do
  if !first then
    if !(← accept .flowEntry) then fail

def flowItems (first : Bool) : Nat → Builder (List Node)
  | 0 => fail
  | fuel + 1 => do
    if ← accept .flowSequenceEnd then return []
    flowComma first
    if ← accept .key then
      let key ← nodeUnless false false [.value, .flowEntry, .flowSequenceEnd] fuel
      let value ← flowValue .flowSequenceEnd fuel
      return .mapping Tag.map [(key, value)] :: (← flowItems false fuel)
    else if ← accept .flowSequenceEnd then return []
    else
      let item ← node false false fuel
      return item :: (← flowItems false fuel)

def flowEntries (first : Bool) : Nat → Builder (List (Node × Node))
  | 0 => fail
  | fuel + 1 => do
    if ← accept .flowMappingEnd then return []
    flowComma first
    if ← accept .key then
      let key ← nodeUnless false false [.value, .flowEntry, .flowMappingEnd] fuel
      let value ← flowValue .flowMappingEnd fuel
      return (key, value) :: (← flowEntries false fuel)
    else if ← accept .flowMappingEnd then return []
    else
      let key ← node false false fuel
      return (key, empty) :: (← flowEntries false fuel)

end

def directives (version : Bool) (handles : List (String × String)) : Nat → Builder Unit
  | 0 => fail
  | fuel + 1 => do
    match ← next? with
    | some (.directive d) =>
      drop
      match d with
      | .version major _ => if version || major ≠ 1 then fail else directives true handles fuel
      | .handle name start =>
        if (handles.lookup name).isSome then fail else directives version ((name, start) :: handles) fuel
      | .other => directives version handles fuel
    | _ => modify fun b => { b with handles := handles ++ handlesByDefault }

def isDirective : Option Token → Bool
  | some (.directive _) => true
  | _ => false

def content (fuel : Nat) : Builder Node := do
  let next ← next?
  if next.isNone || isDirective next || next = some .documentStart || next = some .documentEnd then return empty
  else node true false fuel

def explicitDocument (fuel : Nat) : Builder Node := do
  directives false [] fuel
  if ← accept .documentStart then content fuel else fail

def skipDocumentEnds : Nat → Builder Unit
  | 0 => return
  | fuel + 1 => do if ← accept .documentEnd then skipDocumentEnds fuel

/-- The only document of a text, if there is one. The start of another is read before it is refused. -/
def document? (fuel : Nat) : Builder (Option Node) := do
  let first ← next?
  if first.isNone then return none
  let root ←
    if isDirective first || first = some .documentStart then explicitDocument fuel
    else do
      modify fun b => { b with handles := handlesByDefault }
      node true false fuel
  skipDocumentEnds fuel
  if (← next?).isSome then
    directives false [] fuel
    fail
  return some root

end Builder

/-- A bound for the steps of building a tree. A character brings at most four tokens, and a token takes at most four
steps. -/
def Supply.steps (supply : Supply) : Nat := 16 * supply.ready.length + 32

/-- The tree of the only document in a text; `none` if there is no document. -/
def Node.ofSupply? (supply : Supply) : Except Fault (Option Node) := do
  let (root, _) ← (Builder.document? supply.steps).run { scan := .ofSupply supply }
  return root

end Vetted.Yaml
