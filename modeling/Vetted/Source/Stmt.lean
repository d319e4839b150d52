import Vetted.Source.Printer

namespace Vetted.Source

structure Alias where
  name : String
  as : Option String := none
deriving Repr, DecidableEq, Inhabited

def Alias.text (a : Alias) : String :=
  match a.as with
  | some n => a.name ++ " as " ++ n
  | none => a.name

/-- Statements. An `annotated` one is bare if no brackets stand around its target. A `compound` statement holds the
statements of all its blocks; a `plain` one holds nothing that a declaration depends on. -/
inductive Stmt where
  | importNames (line : Nat) (names : List Alias)
  | importFrom (line : Nat) (dots : Nat) (package : Option String) (names : List Alias)
  | annotated (line : Nat) (target hint : Expr) (value : Option Expr) (bare : Bool := true)
  | classDef (line column : Nat) (name : String) (bases : List Expr) (decorators : List Expr) (body : List Stmt)
  | compound (line : Nat) (body : List Stmt)
  | plain (line : Nat)
deriving Repr, Inhabited

namespace Stmt

def importText? : Stmt → Option String
  | .importNames _ names => some ("import " ++ Text.commaJoin (names.map Alias.text))
  | .importFrom _ dots package names =>
    some ("from " ++ Text.repeated dots '.' ++ package.getD "" ++ " import " ++
      Text.commaJoin (names.map Alias.text))
  | _ => none

end Stmt

end Vetted.Source
