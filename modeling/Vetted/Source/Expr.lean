import Vetted.Source.Literal

namespace Vetted.Source

inductive Constant where
  | none
  | bool (b : Bool)
  | ellipsis
  | number (value : NumberValue)
  | text (value : String) (marked : Bool)
  | bytes (value : List UInt8)
deriving Repr, DecidableEq, Inhabited

inductive UnaryOp where
  | not | invert | plus | minus
deriving Repr, DecidableEq, Inhabited

inductive BinaryOp where
  | add | sub | mul | matMul | div | mod | shiftLeft | shiftRight | bitOr | bitXor | bitAnd | floorDiv | pow
deriving Repr, DecidableEq, Inhabited

inductive CompareOp where
  | eq | ne | lt | le | gt | ge | is | isNot | member | notMember
deriving Repr, DecidableEq, Inhabited

/-- How a parameter takes its argument. -/
inductive ParameterRole where
  | positionalOnly | positional | rest | keywordOnly | keywordRest
deriving Repr, DecidableEq, Inhabited

inductive Expr where
  | name (id : String)
  | constant (value : Constant)
  | attribute (object : Expr) (field : String)
  | subscript (object index : Expr)
  | slice (lower upper step : Option Expr)
  | tuple (items : List Expr)
  | list (items : List Expr)
  | set (items : List Expr)
  | dict (items : List (Option Expr × Nat × Expr))
  | starred (value : Expr)
  | call (function : Expr) (arguments : List Expr) (keywords : List (Option String × Expr))
  | unary (op : UnaryOp) (operand : Expr)
  | binary (op : BinaryOp) (left right : Expr)
  | boolean (isOr : Bool) (first second : Expr) (others : List Expr)
  | compare (left : Expr) (op : CompareOp) (right : Expr) (others : List (CompareOp × Expr))
  | conditional (test body other : Expr)
  | lambda (parameters : List (ParameterRole × String × Option Expr)) (body : Expr)
  | listOf (item : Expr) (clauses : List (Bool × Expr × Expr × List Expr))
  | setOf (item : Expr) (clauses : List (Bool × Expr × Expr × List Expr))
  | generator (item : Expr) (clauses : List (Bool × Expr × Expr × List Expr))
  | dictOf (key value : Expr) (clauses : List (Bool × Expr × Expr × List Expr))
  | await (value : Expr)
  | yield (value : Option Expr)
  | yieldFrom (value : Expr)
  | named (target value : Expr)
  | joined (parts : List Expr)
  | formatted (value : Expr) (conversion : Option Char) (spec : Option Expr)
deriving Repr, Inhabited

end Vetted.Source
