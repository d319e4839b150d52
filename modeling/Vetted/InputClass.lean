import Vetted.Declaration
import Vetted.Source.Binding
import Vetted.Text.Alphanumeric

namespace Vetted

open Source

inductive Hint where
  | field
  | classAttribute
  | parameter
  | keywordMark
deriving Repr, DecidableEq, Inhabited

structure FieldTag where
  text : Option String := none
  computed : Bool := false
deriving Repr, DecidableEq, Inhabited

/-- What a record keeps under an annotated name: a field with its tag, or something that values do not hold. -/
inductive FieldEntry where
  | field (tag : FieldTag)
  | pseudo
deriving Repr, DecidableEq, Inhabited

abbrev FieldTable := List (String × FieldEntry)

structure InputClass where
  name : String
  isRecord : Bool
  fields : List (String × Option String)
  table : FieldTable := fields.map fun (name, text) => (name, .field { text })
deriving Repr, Inhabited

namespace InputClass

inductive ClassKey where
  | made (number : Nat)
  | found (o : Origin)
deriving Repr, DecidableEq, Inhabited

/-- A class that another one is built on, with the fields that it was marked with and those that are found for it. -/
structure Ancestor where
  key : ClassKey
  own : Option FieldTable := none
  table : Option FieldTable := own
deriving Repr, DecidableEq, Inhabited

/-- What a name stands for while a source is imported. A class is known by the classes that it is built on, itself
first; fields are numbered, since one field may have several names. -/
inductive Thing where
  | found (o : Origin)
  | cls (lineage : List Ancestor)
  | field (number : Nat) (tag : FieldTag)
  | other
deriving Repr, DecidableEq, Inhabited

abbrev Names := List (String × Thing)

/-- What the text of a source does not tell about its import: what modules export, where a thing that modules pass on
is at home, the classes of other modules, and what other expressions and statements come to. -/
structure World where
  exports : Exports := fun _ => []
  home : Origin → Origin := id
  lineage : Origin → List Ancestor := fun o => [{ key := .found o }]
  value : Names → Expr → Thing := fun _ _ => .other
  tag : Names → Expr → Option String := fun _ _ => none
  given : Names → Option Expr → Expr → Option String := fun _ _ _ => none
  bound : Names → Stmt → Names := fun _ _ => []
  hints : Names → Stmt → List (String × Hint) := fun _ _ => []
  passed : Names → List Expr → String → Thing := fun _ _ _ => .other

variable (w : World)

def Thing.isAt (path : List String) : Thing → Bool
  | .found o => w.home o = { path }
  | _ => false

def Thing.lineage : Thing → List Ancestor
  | .found o => w.lineage (w.home o)
  | .cls lineage => lineage
  | _ => []

def Thing.number? : Thing → Option Nat
  | .field number _ => some number
  | _ => none

def Thing.tag : Thing → FieldTag
  | .field _ tag => tag
  | _ => {}

def put {α : Type} (name : String) (entry : α) : List (String × α) → List (String × α)
  | [] => [(name, entry)]
  | (n, e) :: rest => if n = name then (n, entry) :: rest else (n, e) :: put name entry rest

def putAll {α : Type} (table own : List (String × α)) : List (String × α) :=
  own.foldl (fun table f => put f.1 f.2 table) table

def valueFields (table : FieldTable) : List (String × Option String) :=
  table.filterMap fun f =>
    match f.2 with
    | .field tag => some (f.1, tag.text)
    | .pseudo => none

def mangled (cls name : String) : String :=
  let bare := String.ofList (cls.toList.dropWhile (· = '_'))
  if Text.startsWith name "__" && !Text.endsWith name "__" && !bare.isEmpty then "_" ++ bare ++ name else name

def lookUp (names : Names) (name : String) : Thing := (names.lookup name).getD .other

/-- The value of an expression in a class, or outside of classes if the name of the class is empty. -/
def evaluate (cls : String) (names : Names) : Expr → Thing
  | .name name => lookUp names (mangled cls name)
  | .attribute object field =>
    match evaluate cls names object with
    | .found o => .found (o.member (mangled cls field))
    | _ => w.value names (.attribute object field)
  | e => w.value names e

def literal? : Expr → Option String
  | .constant (.text s _) => some s
  | _ => none

def itemsOf : Expr → List (Option Expr × Nat × Expr)
  | .dict items => items
  | e => [(none, 0, e)]

def metadataItems : Option String × Expr → List (Option Expr × Nat × Expr)
  | (some name, e) => if name = "metadata" then itemsOf e else []
  | (none, e) => [(none, 0, e)]

def tagAfter (names : Names) (tag : FieldTag) : Option Expr × Nat × Expr → FieldTag
  | (some (.constant (.text key _)), _, value) =>
    if key = "validate" then
      match literal? value with
      | some text => { text }
      | none => { text := w.tag names value, computed := true }
    else tag
  | (key, _, value) =>
    match w.given names key value with
    | some text => { text, computed := true }
    | none => tag

def newTag (names : Names) (keywords : List (Option String × Expr)) : FieldTag :=
  (keywords.flatMap metadataItems).foldl (tagAfter w names) {}

def valueOf (cls : String) (names : Names) : Expr → Thing
  | .call function arguments keywords =>
    if (evaluate w cls names function).isAt w ["dataclasses", "field"] then
      .field names.length (newTag w names keywords)
    else w.value names (.call function arguments keywords)
  | e => evaluate w cls names e

def hintOfThing (t : Thing) : Hint :=
  if t.isAt w ["typing", "ClassVar"] then .classAttribute
  else if t.isAt w ["dataclasses", "InitVar"] then .parameter
  else if t.isAt w ["dataclasses", "KW_ONLY"] then .keywordMark
  else .field

def isWordChar (c : Char) : Bool := Text.isAlphanumeric c || c = '_'

def firstWord? (cs : List Char) : Option (String × List Char) :=
  let cs := Text.trimLeft cs
  match cs.takeWhile isWordChar with
  | [] => none
  | word => some (String.ofList word, cs.dropWhile isWordChar)

def textHead? (s : String) : Option (Option String × String) := do
  let (first, rest) ← firstWord? s.toList
  match Text.trimLeft rest with
  | '.' :: rest =>
    match firstWord? rest with
    | some (second, _) => return (some first, second)
    | none => return (none, first)
  | _ => return (none, first)

def hintOfText (names : Names) (s : String) : Hint :=
  match textHead? s with
  | none => .field
  | some (none, name) => hintOfThing w (lookUp names name)
  | some (some module, name) =>
    let path := [if name = "ClassVar" then "typing" else "dataclasses"]
    if (lookUp names module).isAt w path then hintOfThing {} (.found { path := path ++ [name] }) else .field

def hintOf (outer : Names) (postponed : Bool) (cls : String) (names : Names) (hint : Expr) : Hint :=
  if postponed then hintOfText w outer hint.text
  else
    match hint with
    | .constant (.text s _) => hintOfText w outer s
    | .subscript object _ =>
      match hintOfThing w (evaluate w cls names object) with
      | .keywordMark => .field
      | h => h
    | e => hintOfThing w (evaluate w cls names e)

def imported (s : Stmt) : Names := (s.origins w.exports).map fun (name, o) => (name, .found o)

def bindings (cls : String) (names : Names) (s : Stmt) : Names :=
  match s with
  | .annotated _ (.name name) _ value _ => value.toList.map fun e => (name, valueOf w cls names e)
  | .importNames .. | .importFrom .. => imported w s
  | .classDef _ _ name _ _ _ => [(name, .other)]
  | s => w.bound names s

/-- The annotations that a statement of a class body makes; there are none for a target in brackets. -/
def annotations (outer : Names) (postponed : Bool) (cls : String) (names : Names) : Stmt → List (String × Hint)
  | .annotated _ (.name name) hint _ bare => if bare then [(name, hintOf w outer postponed cls names hint)] else []
  | s => w.hints names s

/-- A class body under way: what its names hold, the last first, and its annotations in order. -/
structure Space where
  held : Names := []
  hints : List (String × Hint) := []
deriving Repr, Inhabited

namespace Space

def mangledKeys {α : Type} (cls : String) (table : List (String × α)) : List (String × α) :=
  table.map fun f => (mangled cls f.1, f.2)

def step (outer : Names) (postponed : Bool) (cls : String) (space : Space) (s : Stmt) : Space :=
  let held := (mangledKeys cls (bindings w cls (space.held ++ outer) s)).reverse ++ space.held
  { held, hints := putAll space.hints (mangledKeys cls (annotations w outer postponed cls (held ++ outer) s)) }

def run (outer : Names) (postponed : Bool) (cls : String) (body : List Stmt) : Space :=
  body.foldl (step w outer postponed cls) {}

def annotated (space : Space) : List (String × Hint) := space.hints.filter (·.2 ≠ .keywordMark)

variable (passed : String → Thing)

def thingOf (space : Space) (name : String) : Thing := (space.held.lookup name).getD (passed name)

/-- Of several annotated names that hold one field, the last gives it its name and its kind. -/
def settled (space : Space) (f : String × Hint) : String × Hint :=
  match (space.thingOf passed f.1).number? with
  | some number =>
    (space.annotated.filter fun g => (space.thingOf passed g.1).number? = some number).getLast?.getD f
  | none => f

def entryOf (space : Space) (f : String × Hint) : String × FieldEntry :=
  (f.1, if f.2 = .field then .field (space.thingOf passed f.1).tag else .pseudo)

def table (space : Space) : FieldTable :=
  putAll [] (space.annotated.map fun f => space.entryOf passed (space.settled passed f))

end Space

def nextAncestor? (lists : List (List Ancestor)) : Option Ancestor :=
  (lists.filterMap List.head?).find? fun a => lists.all fun l => l.tail.all (·.key ≠ a.key)

def merge : (fuel : Nat) → List (List Ancestor) → List Ancestor
  | 0, _ => []
  | fuel + 1, lists =>
    match nextAncestor? lists with
    | some a => a :: merge fuel (lists.map fun l => if l.head?.any (·.key = a.key) then l.tail else l)
    | none => []

def ancestors (names : Names) (bases : List Expr) : List Ancestor :=
  let lists := bases.map fun b => (evaluate w "" names (Declaration.bareType b)).lineage w
  merge (Text.total (lists.map List.length)) (lists ++ [lists.filterMap List.head?])

def inherited (lineage : List Ancestor) : FieldTable := (lineage.reverse.filterMap Ancestor.table).foldl putAll []

def ownTable (names : Names) (postponed : Bool) (name : String) (bases : List Expr) (body : List Stmt) : FieldTable :=
  (Space.run w names postponed name body).table (w.passed names bases)

def isRecordMark (names : Names) : Expr → Bool
  | .call function arguments keywords =>
    (evaluate w "" names function).isAt w ["dataclasses", "dataclass"] ||
      (w.value names (.call function arguments keywords)).isAt w ["dataclasses", "dataclass"]
  | e => (evaluate w "" names e).isAt w ["dataclasses", "dataclass"]

def markedTable? (names : Names) (postponed : Bool) (name : String) (bases decorators : List Expr) (body : List Stmt) :
    Option FieldTable :=
  if decorators.any (isRecordMark w names) then
    some (putAll (inherited (ancestors w names bases)) (ownTable w names postponed name bases body))
  else none

/-- The class that a statement defines, and the classes that it is built on. A class that is not marked has the fields
of the first one before it that is. -/
def ofStmt? (names : Names) (postponed : Bool) : Stmt → Option (InputClass × List Ancestor)
  | .classDef _ _ name bases decorators body =>
    let lineage := ancestors w names bases
    let own := markedTable? w names postponed name bases decorators body
    let found := own.or (lineage.findSome? Ancestor.own)
    let table := putAll [] (found.getD [])
    some
      ({ name, isRecord := found.isSome, fields := valueFields table, table },
        { key := .made names.length, own, table := found } :: lineage)
  | _ => none

def learn (postponed : Bool) (names : Names) (s : Stmt) : Names :=
  match ofStmt? w names postponed s with
  | some (c, lineage) => (c.name, .cls lineage) :: names
  | none => (bindings w "" names s).reverse ++ names

def namesAfter (postponed : Bool) (body : List Stmt) : Names := body.foldl (learn w postponed) []

def isPostponed (body : List Stmt) : Bool :=
  body.any fun s =>
    match s with
    | .importFrom _ 0 (some "__future__") names => names.any (·.name = "annotations")
    | _ => false

def classesFrom (postponed : Bool) (names : Names) : List Stmt → List InputClass
  | [] => []
  | s :: rest =>
    ((ofStmt? w names postponed s).map Prod.fst).toList ++ classesFrom postponed (learn w postponed names s) rest

def ofStatements (body : List Stmt) : List InputClass := classesFrom w (isPostponed body) [] body

end InputClass

end Vetted
