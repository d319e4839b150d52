import Vetted.Moment
import Vetted.Number.Floating
import Vetted.Text.Quoted

namespace Vetted

open Number (Decimal Floating)

inductive Value where
  | none
  | bool (b : Bool)
  | int (n : Int)
  | float (x : Floating)
  | decimal (d : Decimal)
  | text (s : String)
  | bytes (bs : List UInt8)
  | byteArray (bs : List UInt8)
  | list (items : List Value)
  | tuple (items : List Value)
  | set (items : List Value)
  | frozenSet (items : List Value)
  | dict (entries : List (Value × Value))
  | date (d : Date)
  | moment (m : Moment)
deriving Repr, Inhabited

namespace Value

def typeName : Value → String
  | .none => "NoneType"
  | .bool _ => "bool"
  | .int _ => "int"
  | .float _ => "float"
  | .decimal _ => "Decimal"
  | .text _ => "str"
  | .bytes _ => "bytes"
  | .byteArray _ => "bytearray"
  | .list _ => "list"
  | .tuple _ => "tuple"
  | .set _ => "set"
  | .frozenSet _ => "frozenset"
  | .dict _ => "dict"
  | .date _ => "date"
  | .moment _ => "datetime"

/-- How many items a value holds, for values that are measured by that. -/
def size? : Value → Option Nat
  | .text s => some s.length
  | .bytes bs => some bs.length
  | .list items | .tuple items | .set items | .frozenSet items => some items.length
  | .dict entries => some entries.length
  | _ => Option.none

def isZero : Value → Bool
  | .none => true
  | .bool b => !b
  | .int n => n = 0
  | .float x => x.isZero
  | .decimal d => d.isZero
  | v => v.size? = some 0

def intText? (n : Int) : Option String := if n.natAbs < Nat.pow 10 4300 then some (toString n) else Option.none

def between (opening closing : String) (items : List String) : String := opening ++ Text.commaJoin items ++ closing

mutual

/-- The text of a value inside another one; `none` if an integer in it is too long to be written. -/
def nestedText? : Value → Option String
  | .none => some "None"
  | .bool b => some (if b then "True" else "False")
  | .int n => intText? n
  | .float x => some x.text
  | .decimal d => some ("Decimal('" ++ d.text ++ "')")
  | .text s => some (Text.quote s)
  | .bytes bs => some (Text.quoteBytes bs)
  | .byteArray bs => some ("bytearray(" ++ Text.quoteBytes bs ++ ")")
  | .list items => (nestedTexts? items).map (between "[" "]")
  | .tuple [item] => (nestedText? item).map fun s => "(" ++ s ++ ",)"
  | .tuple items => (nestedTexts? items).map (between "(" ")")
  | .set [] => some "set()"
  | .set items => (nestedTexts? items).map (between "\x7b" "\x7d")
  | .frozenSet [] => some "frozenset()"
  | .frozenSet items => (nestedTexts? items).map (between "frozenset(\x7b" "\x7d)")
  | .dict entries => (entryTexts? entries).map (between "\x7b" "\x7d")
  | .date d =>
    some ("datetime.date(" ++ toString d.year ++ ", " ++ toString d.month ++ ", " ++ toString d.day ++ ")")
  | .moment m => some m.callText

def nestedTexts? : List Value → Option (List String)
  | [] => some []
  | v :: rest => do return (← nestedText? v) :: (← nestedTexts? rest)

def entryTexts? : List (Value × Value) → Option (List String)
  | [] => some []
  | (k, v) :: rest => do return ((← nestedText? k) ++ ": " ++ (← nestedText? v)) :: (← entryTexts? rest)

end

def text? : Value → Option String
  | .text s => some s
  | .decimal d => some d.text
  | .date d => some d.isoText
  | .moment m => some m.text
  | v => v.nestedText?

def numeric? : Value → Option Decimal
  | .bool b => some (.ofInt (if b then 1 else 0))
  | .int n => some (.ofInt n)
  | .float x => some x.exact
  | .decimal d => some d
  | _ => Option.none

mutual

def same : Value → Value → Bool
  | .none, .none => true
  | .text a, .text b => a = b
  | .bytes a, .bytes b => a = b
  | .date a, .date b => a = b
  | .moment a, .moment b => a = b
  | .tuple as, .tuple bs => sameItems as bs
  | .frozenSet as, .frozenSet bs => as.length = bs.length && allWithin as bs
  | a, b =>
    match a.numeric?, b.numeric? with
    | some x, some y => x.compare? y = some .eq
    | _, _ => false

def sameItems : List Value → List Value → Bool
  | [], [] => true
  | a :: as, b :: bs => same a b && sameItems as bs
  | _, _ => false

def within : Value → List Value → Bool
  | _, [] => false
  | a, b :: bs => same a b || within a bs

def allWithin : List Value → List Value → Bool
  | [], _ => true
  | a :: as, bs => within a bs && allWithin as bs

end

/-- The items of a set: of values that count as one, the first. -/
def distinct (items : List Value) : List Value :=
  items.foldl (fun kept v => if within v kept then kept else kept ++ [v]) []

def putEntry (key value : Value) : List (Value × Value) → List (Value × Value)
  | [] => [(key, value)]
  | (k, v) :: rest => if same k key then (k, value) :: rest else (k, v) :: putEntry key value rest

def dictOf (entries : List (Value × Value)) : Value :=
  .dict (entries.foldl (fun kept (k, v) => putEntry k v kept) [])

end Value

end Vetted
