import Vetted.Generated.Program
import Vetted.Source.Reading

namespace Vetted.Source

inductive Way where
  | read
  | attribute (field : String)
  | item
  | alternative
  | other
deriving Repr, DecidableEq, Inhabited

structure Access where
  name : String
  way : Way
deriving Repr, DecidableEq, Inhabited

namespace Expr

def ofText? (text : String) : Option Expr := (treeOfField plainGrammar text.toList).bind Tree.expr?

def accessTo (object : Expr) (way : Way) : List Access :=
  match object with
  | .name id => [⟨id, way⟩]
  | _ => []

def isTypeLike : Expr → Bool
  | .constant value => value = .none
  | _ => true

def operandWay (op : BinaryOp) (left right : Expr) : Way :=
  if op = .bitOr && isTypeLike left && isTypeLike right then .alternative else .other

mutual

/-- What an expression does with names, in the order of evaluation. Parts that are evaluated later or only under a
condition are not looked into. -/
def accesses : Expr → List Access
  | .name id => [⟨id, .read⟩]
  | .attribute object field => accesses object ++ accessTo object (.attribute field)
  | .subscript object index => accesses object ++ accesses index ++ accessTo object .item
  | .tuple items | .list items | .set items => accessesOfItems items
  | .starred value | .unary _ value => accesses value ++ accessTo value .other
  | .binary op left right =>
    accesses left ++ accesses right ++ accessTo left (operandWay op left right) ++
      accessTo right (operandWay op left right)
  | .call function arguments keywords =>
    accesses function ++ accessesOfItems arguments ++ accessesOfKeywords keywords ++ accessTo function .other
  | _ => []

def accessesOfItems : List Expr → List Access
  | [] => []
  | e :: rest => accesses e ++ accessesOfItems rest

def accessesOfKeywords : List (Option String × Expr) → List Access
  | [] => []
  | (_, e) :: rest => accesses e ++ accessesOfKeywords rest

end

end Expr

def typeAccesses (text : String) : List Access := ((Expr.ofText? text).map Expr.accesses).getD []

end Vetted.Source

namespace Vetted.Generated

open Source (Access Exports)

/-- Why a module cannot be loaded. What happens if a name is foreign is not known. -/
inductive LoadFault where
  | foreign (name : String)
  | unbound (name : String)
  | noAttribute (owner : Global) (field : String)
  | noItems (owner : Global)
deriving Repr, DecidableEq, Inhabited

namespace Global

def typeName : Global → String
  | .imported _ => "module"
  | .wrapper _ => "NewType"
  | .record _ => "type"
  | .routine _ => "function"

/-- Whether an attribute is there. Attributes that things have by their nature start with two underscores, but for one
that classes have. -/
def hasAttribute (field : String) : Global → Bool
  | .record _ => Text.startsWith field "__" || field = "mro"
  | _ => Text.startsWith field "__"

def isRoutine : Global → Bool
  | .routine _ => true
  | _ => false

def fault? (g : Global) (cls : String) (a : Access) : Option LoadFault :=
  match a.way with
  | .read => none
  | .attribute field =>
    if hasAttribute (InputClass.mangled cls field) g then none else some (.noAttribute g (InputClass.mangled cls field))
  | .item => some (.noItems g)
  | .alternative => if g.isRoutine then some (.foreign a.name) else none
  | .other => some (.foreign a.name)

end Global

def LoadFault.message : LoadFault → String
  | .foreign name => name
  | .unbound name => "name '" ++ name ++ "' is not defined"
  | .noAttribute (.record r) field => "type object '" ++ r.name ++ "' has no attribute '" ++ field ++ "'"
  | .noAttribute owner field => "'" ++ owner.typeName ++ "' object has no attribute '" ++ field ++ "'"
  | .noItems (.record r) => "type '" ++ r.name ++ "' is not subscriptable"
  | .noItems owner => "'" ++ owner.typeName ++ "' object is not subscriptable"

def givenNames : List String :=
  ["ArithmeticError", "AssertionError", "AttributeError", "BaseException", "BaseExceptionGroup", "BlockingIOError",
    "BrokenPipeError", "BufferError", "BytesWarning", "ChildProcessError", "ConnectionAbortedError",
    "ConnectionError", "ConnectionRefusedError", "ConnectionResetError", "DeprecationWarning", "EOFError", "Ellipsis",
    "EncodingWarning", "EnvironmentError", "Exception", "ExceptionGroup", "FileExistsError", "FileNotFoundError",
    "FloatingPointError", "FutureWarning", "GeneratorExit", "IOError", "ImportError", "ImportWarning",
    "IndentationError", "IndexError", "InterruptedError", "IsADirectoryError", "KeyError", "KeyboardInterrupt",
    "LookupError", "MemoryError", "ModuleNotFoundError", "NameError", "NotADirectoryError", "NotImplemented",
    "NotImplementedError", "OSError", "OverflowError", "PendingDeprecationWarning", "PermissionError",
    "ProcessLookupError", "RecursionError", "ReferenceError", "ResourceWarning", "RuntimeError", "RuntimeWarning",
    "StopAsyncIteration", "StopIteration", "SyntaxError", "SyntaxWarning", "SystemError", "SystemExit", "TabError",
    "TimeoutError", "TypeError", "UnboundLocalError", "UnicodeDecodeError", "UnicodeEncodeError", "UnicodeError",
    "UnicodeTranslateError", "UnicodeWarning", "UserWarning", "ValueError", "Warning", "ZeroDivisionError",
    "__build_class__", "__builtins__", "__cached__", "__doc__", "__file__", "__import__", "__loader__", "__name__",
    "__package__", "__spec__", "abs", "aiter", "all", "anext", "any", "ascii", "bin", "bool", "breakpoint",
    "bytearray", "bytes", "callable", "chr", "classmethod", "compile", "complex", "copyright", "credits", "delattr",
    "dict", "dir", "divmod", "enumerate", "eval", "exec", "exit", "filter", "float", "format", "frozenset", "getattr",
    "globals", "hasattr", "hash", "help", "hex", "id", "input", "int", "isinstance", "issubclass", "iter", "len",
    "license", "list", "locals", "map", "max", "memoryview", "min", "next", "object", "oct", "open", "ord", "pow",
    "print", "property", "quit", "range", "repr", "reversed", "round", "set", "setattr", "slice", "sorted",
    "staticmethod", "str", "sum", "super", "tuple", "type", "vars", "zip"]

def classNames : List String := ["__annotations__", "__doc__", "__module__", "__qualname__"]

structure Definition where
  types : List String
  name : String
  meaning : Global
  cls : String := ""
deriving Repr, DecidableEq, Inhabited

section

variable (exports : Exports) (imports : List String)

def isBound (cls name : String) : Bool :=
  givenNames.contains name || (Source.originAfter exports imports name).isSome ||
    cls ≠ "" && classNames.contains name

def accessFault? (defined : List (String × Global)) (cls : String) (a : Access) : Option LoadFault :=
  match defined.lookup (InputClass.mangled cls a.name) with
  | some g => g.fault? cls a
  | none =>
    if a.way = .read && !isBound exports imports cls (InputClass.mangled cls a.name) then
      some (.unbound (InputClass.mangled cls a.name))
    else none

/-- What goes wrong when a type is evaluated after some definitions, the last of which comes first. Nothing does if
the type is the name of one of them. -/
def typeFault? (defined : List (String × Global)) (cls type : String) : Option LoadFault :=
  if (defined.lookup (InputClass.mangled cls type)).isSome then none
  else (Source.typeAccesses type).findSome? (accessFault? exports imports defined cls)

def define (defined : List (String × Global)) : List Definition → Except LoadFault Unit
  | [] => .ok ()
  | d :: rest =>
    match d.types.findSome? (typeFault? exports imports defined d.cls) with
    | some fault => .error fault
    | none => define ((d.name, d.meaning) :: defined) rest

end

inductive UseFault where
  | loading (f : LoadFault)
  | calling (f : CallFault)
deriving Repr, Inhabited

namespace Program

def steps (p : Program) : List Definition :=
  p.wrappers.map (fun w => ⟨[w.base], w.name, .wrapper w, ""⟩) ++
    p.routines.flatMap fun r =>
      [⟨r.fields.map Field.typing, r.record.name, .record r.record, r.record.name⟩, ⟨[], r.name, .routine r, ""⟩]

def makesWrappers (exports : Exports) (p : Program) : Bool :=
  Source.originAfter exports p.imports "NewType" = some { path := ["typing", "NewType"] }

def load (exports : Exports) (p : Program) : Except LoadFault Unit :=
  if p.wrappers.isEmpty || p.makesWrappers exports then define exports p.imports [] p.steps
  else .error (.foreign "NewType")

def use (exports : Exports) (p : Program) (c : Circumstances) (input : InputClass) (values : List (String × Value))
    (name : String) : Except UseFault (String × List (String × Value)) := do
  (p.load exports).mapError .loading
  (p.call exports c input values name).mapError .calling

end Program

end Vetted.Generated
