namespace Vetted.Source

inductive TokenKind where
  | name
  | keyword
  | number
  | string
  | operator
  | newline
  | indent
  | dedent
  | finish
deriving Repr, DecidableEq, Inhabited

/-- A token. `line` counts from one and `column` counts bytes from zero; `depth` is the number of brackets open after
the token; `before` is the text between the previous token and this one. -/
structure Token where
  kind : TokenKind
  text : String
  line : Nat := 0
  column : Nat := 0
  depth : Nat := 0
  before : String := ""
deriving Repr, DecidableEq, Inhabited

inductive FaultKind where
  | firm
  | soft
  | ended
deriving Repr, DecidableEq, Inhabited

structure LexFault where
  line : Nat
  kind : FaultKind
  openLine : Option Nat := none
deriving Repr, DecidableEq, Inhabited

structure Scan where
  tokens : List Token
  fault : Option LexFault
deriving Repr, Inhabited

end Vetted.Source
