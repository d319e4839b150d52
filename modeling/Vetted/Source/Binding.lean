import Vetted.Source.Stmt

namespace Vetted.Source

/-- Where an imported thing is found: its dotted path, which starts `dots` packages up if there are any dots. -/
structure Origin where
  dots : Nat := 0
  path : List String
deriving Repr, DecidableEq, Inhabited

def Origin.member (o : Origin) (name : String) : Origin := { o with path := o.path ++ [name] }

abbrev Exports := Origin → List String

def dotted (path : String) : List String := Text.splitOnChar '.' path

namespace Stmt

def moduleOrigin (a : Alias) : String × Origin :=
  match a.as with
  | some name => (name, { path := dotted a.name })
  | none => ((dotted a.name).headD "", { path := (dotted a.name).take 1 })

def memberOrigins (exports : Exports) (o : Origin) (a : Alias) : List (String × Origin) :=
  if a.name = "*" then (exports o).map fun name => (name, o.member name) else [(a.as.getD a.name, o.member a.name)]

/-- The names that a statement binds by an import, in order, with what they stand for. -/
def origins (exports : Exports) : Stmt → List (String × Origin)
  | .importNames _ names => names.map moduleOrigin
  | .importFrom _ dots package names =>
    names.flatMap (memberOrigins exports { dots, path := (package.map dotted).getD [] })
  | _ => []

def withoutComma (s : String) : String := String.ofList (s.toList.filter (· ≠ ','))

def aliasesOf : List String → List Alias
  | name :: "as" :: given :: rest => ⟨name, some (withoutComma given)⟩ :: aliasesOf rest
  | name :: rest => ⟨withoutComma name, none⟩ :: aliasesOf rest
  | [] => []

def isDot (c : Char) : Bool := c = '.'

def packageOf? (source : String) : Option String :=
  match source.toList.dropWhile isDot with
  | [] => none
  | cs => some (String.ofList cs)

def ofImportText? (line : String) : Option Stmt :=
  match Text.splitOnChar ' ' line with
  | "import" :: rest => some (.importNames 0 (aliasesOf rest))
  | "from" :: source :: "import" :: rest =>
    some (.importFrom 0 (source.toList.takeWhile isDot).length (packageOf? source) (aliasesOf rest))
  | _ => none

end Stmt

def lineOrigins (exports : Exports) (line : String) : List (String × Origin) :=
  match Stmt.ofImportText? line with
  | some s => s.origins exports
  | none => []

def originAfter (exports : Exports) (lines : List String) (name : String) : Option Origin :=
  (lines.flatMap (lineOrigins exports)).reverse.lookup name

end Vetted.Source
