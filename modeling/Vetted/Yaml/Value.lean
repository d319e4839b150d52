import Vetted.Password.Base64
import Vetted.Text.Case
import Vetted.Value
import Vetted.Yaml.Node

namespace Vetted.Yaml

open Number (Floating)

def withoutUnderscores (s : String) : List Char := s.toList.filter (· ≠ '_')

def signed : List Char → Except Fault (Bool × List Char)
  | [] => .error .emptyNumber
  | c :: rest => .ok (if Form.isSign c then (c = '-', rest) else (false, c :: rest))

def digitsIn (base : Nat) (cs : List Char) : Except Fault Int :=
  (Number.Numeral.read base (String.ofList cs)).mapError .noInteger

def inSixties (parts : List Int) : Int := parts.foldl (fun n p => 60 * n + p) 0

def integerFrom (cs : List Char) : Except Fault Int :=
  match cs with
  | [] => .error .emptyNumber
  | ['0'] => .ok 0
  | '0' :: 'b' :: rest => digitsIn 2 rest
  | '0' :: 'x' :: rest => digitsIn 16 rest
  | '0' :: _ => digitsIn 8 cs
  | _ =>
    if cs.contains ':' then return inSixties (← (Text.pieces ':' cs).mapM (digitsIn 10))
    else digitsIn 10 cs

def integerOf (s : String) : Except Fault Int := do
  let (negative, cs) ← signed (withoutUnderscores s)
  let n ← integerFrom cs
  return if negative then -n else n

def floatFrom (cs : List Char) : Except Fault Floating :=
  match Floating.nearestText? (String.ofList cs) with
  | some x => .ok x
  | none => .error (.noFloat (String.ofList cs))

/-- The sum of parts, the last one first, each counting sixty times as much as the one before; `unit` is what the first
counts. -/
def floatInSixties (sum : Floating) (unit : Nat) : List Floating → Except Fault Floating
  | [] => .ok sum
  | part :: rest =>
    match Floating.ofNat? unit with
    | some size => floatInSixties (sum.plus (part.times size)) (60 * unit) rest
    | none => .error .hugeFloat

def floatOf (s : String) : Except Fault Floating := do
  let (negative, cs) ← signed (Text.lowerChars (withoutUnderscores s))
  if cs = ".inf".toList then return .infinite negative
  if cs = ".nan".toList then return .nan
  let x ←
    if cs.contains ':' then
      let parts ← (Text.pieces ':' cs).mapM floatFrom
      floatInSixties (.finite false ⟨0, 0⟩) 1 parts.reverse
    else floatFrom cs
  return if negative then x.negated else x

def boolOf (s : String) : Except Fault Bool :=
  let word := Text.lower s
  if ["yes", "true", "on"].contains word then .ok true
  else if ["no", "false", "off"].contains word then .ok false
  else .error (.noBool word)

def dateOf (t : Form.Timestamp) : Except Fault Date := do
  if t.year = 0 then .error (.badYear t.year)
  if t.month = 0 || 12 < t.month then .error .badMonth
  if t.day = 0 || Date.daysIn t.year t.month < t.day then .error .badDay
  return ⟨t.year, t.month, t.day⟩

def momentOf (t : Form.Timestamp) (clock : Form.Clock) : Except Fault Moment := do
  match clock.zone with
  | some minutes => if !(Span.mk minutes).isZone then .error (.badZone ⟨minutes⟩)
  | none => pure ()
  let date ← dateOf t
  if 23 < clock.hour then .error (.badTime "hour" 23)
  if 59 < clock.minute then .error (.badTime "minute" 59)
  if 59 < clock.second then .error (.badTime "second" 59)
  return { date, hour := clock.hour, minute := clock.minute, second := clock.second, micro := clock.micro,
           zone := clock.zone }

def timestampOf (s : String) : Except Fault Value :=
  match Form.timestamp? false (Form.withoutLineEnd s.toList) with
  | none => .error .noTimestamp
  | some t =>
    match t.time with
    | some clock => (momentOf t clock).map .moment
    | none => (dateOf t).map .date

def binaryOf (s : String) : Except Fault (List UInt8) :=
  let cs := s.toList
  if cs.any fun c => 127 < c.toNat then .error .malformed
  else (Password.Base64.read 0 0 0 [] (cs.filter (· ≠ '.'))).mapError fun _ => .malformed

def scalarValue (tag text : String) : Except Fault Value :=
  if tag = Tag.str then .ok (.text text)
  else if tag = Tag.null then .ok .none
  else if tag = Tag.bool then (boolOf text).map .bool
  else if tag = Tag.int then (integerOf text).map .int
  else if tag = Tag.float then (floatOf text).map .float
  else if tag = Tag.timestamp then timestampOf text
  else if tag = Tag.binary then (binaryOf text).map .bytes
  else .error .malformed

namespace Node

/-- Entries of a mapping: those that it takes from others, and its own. `none` if it cannot take what it says. -/
structure Entries where
  merged : Option (List (Node × Node))
  own : List (Node × Node)

def Entries.all? (e : Entries) : Option (List (Node × Node)) := e.merged.map (· ++ e.own)

mutual

def flattened : Node → Node
  | .sequence tag items => .sequence tag (flattenedItems items)
  | .mapping tag entries =>
    if tag = Tag.map || tag = Tag.set then
      match (entriesOf entries).all? with
      | some all => .mapping tag all
      | none => .broken tag
    else .mapping tag entries
  | n => n

def flattenedItems : List Node → List Node
  | [] => []
  | n :: rest => flattened n :: flattenedItems rest

def entriesOf : List (Node × Node) → Entries
  | [] => ⟨some [], []⟩
  | (k, v) :: rest =>
    let others := entriesOf rest
    if k.tag = Tag.merge then
      { others with merged := do return (← mergedFrom v) ++ (← others.merged) }
    else
      let key :=
        match k with
        | .scalar tag text => .scalar (if tag = Tag.value then Tag.str else tag) text
        | k => flattened k
      { others with own := (key, flattened v) :: others.own }

/-- The entries that a mapping takes from another, or from several, of which the first prevails. -/
def mergedFrom : Node → Option (List (Node × Node))
  | .mapping _ entries => (entriesOf entries).all?
  | .sequence _ items => mergedFromAll items
  | _ => none

def mergedFromAll : List Node → Option (List (Node × Node))
  | [] => some []
  | .mapping _ entries :: rest => do
    let first ← (entriesOf entries).all?
    return (← mergedFromAll rest) ++ first
  | _ :: _ => none

end

mutual

def scalarText? : Node → Option String
  | .scalar _ text => some text
  | .mapping _ entries => valueText? entries
  | _ => none

def valueText? : List (Node × Node) → Option String
  | [] => none
  | (k, v) :: rest => if k.tag = Tag.value then scalarText? v else valueText? rest

end

def isCollectionTag (tag : String) : Bool := [Tag.seq, Tag.omap, Tag.pairs, Tag.map, Tag.set].contains tag

def glance (n : Node) : Except Fault (List Node) :=
  if isCollectionTag n.tag then .ok [n]
  else
    match n.scalarText? with
    | some text => do
      let _ ← scalarValue n.tag text
      return []
    | none => .error .malformed

def glanceEntry (entry : Node × Node) : Except Fault (List Node) := do
  let later ← entry.1.glance
  if !later.isEmpty then .error .malformed
  entry.2.glance

def glancePair : Node → Except Fault (List Node)
  | .mapping _ [(k, v)] => do return (← k.glance) ++ (← v.glance)
  | _ => .error .malformed

def lookInto : Node → Except Fault (List Node)
  | .sequence tag items =>
    if tag = Tag.seq then return (← items.mapM glance).flatten
    else if tag = Tag.omap || tag = Tag.pairs then return (← items.mapM glancePair).flatten
    else .error .malformed
  | .mapping tag entries =>
    if tag = Tag.map || tag = Tag.set then return (← entries.mapM glanceEntry).flatten
    else .error .malformed
  | _ => .error .malformed

/-- Looks into collections, then into those that they hold; `fuel` bounds the depth. -/
def examine : Nat → List Node → Except Fault Unit
  | _, [] => .ok ()
  | 0, _ => .ok ()
  | fuel + 1, nodes => do examine fuel (← nodes.mapM lookInto).flatten

mutual

def toValue : Node → Except Fault Value
  | .scalar tag text => scalarValue tag text
  | .sequence tag items =>
    if tag = Tag.seq then return .list (← valuesOf items)
    else if tag = Tag.omap || tag = Tag.pairs then return .list (← pairsOf items)
    else .error .malformed
  | .mapping tag entries =>
    if tag = Tag.map then return .dictOf (← entryValues entries)
    else if tag = Tag.set then return .set (Value.distinct ((← entryValues entries).map (·.1)))
    else
      match valueText? entries with
      | some text => scalarValue tag text
      | none => .error .malformed
  | _ => .error .malformed

def valuesOf : List Node → Except Fault (List Value)
  | [] => .ok []
  | n :: rest => do return (← n.toValue) :: (← valuesOf rest)

def pairsOf : List Node → Except Fault (List Value)
  | [] => .ok []
  | .mapping _ [(k, v)] :: rest => do return .tuple [← k.toValue, ← v.toValue] :: (← pairsOf rest)
  | _ :: _ => .error .malformed

def entryValues : List (Node × Node) → Except Fault (List (Value × Value))
  | [] => .ok []
  | (k, v) :: rest => do return (← k.toValue, ← v.toValue) :: (← entryValues rest)

end

end Node

/-- The value of the only document in a text; no document stands for no value. -/
def read (supply : Supply) : Except Fault Value := do
  match ← Node.ofSupply? supply with
  | some root =>
    let root := root.flattened
    Node.examine (Node.turns * supply.steps) (← root.glance)
    root.toValue
  | none => return .none

end Vetted.Yaml
