import Vetted.Path
import Vetted.Source.Module
import Vetted.Source.TextFault

namespace Vetted.Declaration

open Source

/-- A field of an input record. `typeName` is the text of its type; the tags are empty where none is given. -/
structure Field where
  name : String
  typeName : String
  validateTag : String := ""
  serializeTag : String := ""
  transformTag : String := ""
  line : Option Nat := none
deriving Repr, DecidableEq, Inhabited

def tokensOf (tag : String) : List String := ((Text.splitOnChar ',' tag).map Text.strip).filter (!·.isEmpty)

def Field.rules (f : Field) : List String := tokensOf f.validateTag

structure Record where
  name : String
  fields : List Field := []
  line : Option Nat := none
deriving Repr, DecidableEq, Inhabited

def Record.fieldNames (r : Record) : List String := r.fields.map Field.name

structure Module where
  name : String
  path : Option Path := none
  imports : List String := []
  records : List Record := []
deriving Repr, DecidableEq, Inhabited

def Module.recordNames (m : Module) : List String := m.records.map Record.name

def Module.label (m : Module) : String :=
  match m.path with
  | some p => p.name
  | none => m.name

structure Repeated where
  name : String
  firstLine : Nat
  line : Nat
  column : Nat
deriving Repr, DecidableEq, Inhabited

/-- What ends the search for records: a class that is declared again, or an expression that has to be written and
cannot. -/
inductive Fault where
  | repeated (repeated : Repeated)
  | unwritable (fault : TextFault)
deriving Repr, DecidableEq, Inhabited

def literalItem? : Option Expr × Nat × Expr → Option (String × (String ⊕ Nat))
  | (some (.constant (.text key _)), _, .constant (.text value _)) => some (key, .inl value)
  | (some (.constant (.text key _)), line, _) => some (key, .inr line)
  | _ => none

def literalEntries : Expr → List (String × (String ⊕ Nat))
  | .dict items => items.filterMap literalItem?
  | _ => []

def metadataEntries : Option Expr → List (String × (String ⊕ Nat))
  | some (.call function _ keywords) =>
    if function.text = "field" || function.text = "dataclasses.field" then
      (keywords.filter (·.1 = some "metadata")).flatMap fun k => literalEntries k.2
    else []
  | _ => []

def tagValue (entries : List (String × (String ⊕ Nat))) (key : String) : String :=
  let values := entries.filterMap fun (k, v) =>
    match v with
    | .inl s => if k = key then some s else none
    | .inr _ => none
  values.getLast?.getD ""

def bareType : Expr → Expr
  | .subscript object _ => object
  | e => e

def isClassAttribute (hint : Expr) : Bool :=
  let target := bareType hint
  target.text = "ClassVar" || target.text = "typing.ClassVar"

def isHidden (name : String) : Bool := Text.startsWith name "_"

def fieldOf? : Stmt → Option Field
  | .annotated line (.name name) hint value _ =>
    if isHidden name || isClassAttribute hint then none
    else
      let entries := metadataEntries value
      some
        { name
          typeName := hint.text
          validateTag := tagValue entries "validate"
          serializeTag := tagValue entries "json"
          transformTag := tagValue entries "transform"
          line := some line }
  | _ => none

def fieldsOf (body : List Stmt) : List Field := body.filterMap fieldOf?

def calleeFault? : Option Expr → Option TextFault
  | some (.call function _ _) => function.textFault?
  | _ => none

/-- The fault of what is written to find out about a statement of a class body: the bare type of a name that is not
hidden and, if it marks no class attribute, the function that is called for its value and the type as a whole. -/
def fieldFault? : Stmt → Option TextFault
  | .annotated _ (.name name) hint value _ =>
    if isHidden name then none
    else
      (bareType hint).textFault?.or
        (if isClassAttribute hint then none else (calleeFault? value).or hint.textFault?)
  | _ => none

def recordOf? (suffix : String) : Stmt → Option Record
  | .classDef line _ name _ _ body =>
    if Text.endsWith name suffix then some { name, fields := fieldsOf body, line := some line } else none
  | _ => none

def collect (suffix : String) (seen : List (String × Nat)) : List Stmt → Except Fault (List Record)
  | [] => .ok []
  | .classDef line column name bases decorators body :: rest =>
    match recordOf? suffix (.classDef line column name bases decorators body) with
    | none => collect suffix seen rest
    | some record =>
      match seen.lookup name with
      | some firstLine => .error (.repeated { name, firstLine, line, column := column + 1 })
      | none =>
        match body.findSome? fieldFault? with
        | some fault => .error (.unwritable fault)
        | none => (collect suffix (seen ++ [(name, line)]) rest).map (record :: ·)
  | _ :: rest => collect suffix seen rest

def recordsOf (suffix : String) (body : List Stmt) : Except Fault (List Record) := collect suffix [] body

def tagNotes : Stmt → List String
  | .annotated _ (.name name) hint value _ =>
    if isHidden name || isClassAttribute hint then []
    else
      (metadataEntries value).filterMap fun (key, v) =>
        match v with
        | .inl _ => none
        | .inr line => some ("Ignoring non-literal '" ++ key ++ "' tag at line " ++ toString line)
  | _ => []

/-- What is noted of the records of a source until one is repeated or cannot be written, `seen` holding the names
found so far. -/
def notesFrom (suffix : String) (seen : List String) : List Stmt → List String
  | [] => []
  | .classDef _ _ name _ _ body :: rest =>
    if !Text.endsWith name suffix then notesFrom suffix seen rest
    else if seen.contains name then []
    else if (body.findSome? fieldFault?).isSome then (body.takeWhile fun s => (fieldFault? s).isNone).flatMap tagNotes
    else
      body.flatMap tagNotes ++
        ("Found input class " ++ name ++ " with " ++ toString (fieldsOf body).length ++ " field(s)") ::
          notesFrom suffix (name :: seen) rest
  | _ :: rest => notesFrom suffix seen rest

def notes (suffix : String) (body : List Stmt) : List String := notesFrom suffix [] body

def importsOf (body : List Stmt) : List String :=
  body.filterMap fun s =>
    match s with
    | .importFrom _ _ (some "__future__") _ => none
    | s => s.importText?

end Vetted.Declaration
