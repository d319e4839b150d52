import Vetted.Text.Basic

namespace Vetted.Yaml

namespace Form

def isSign (c : Char) : Bool := c = '+' || c = '-'

def unsigned (cs : List Char) : List Char :=
  match cs with
  | c :: rest => if isSign c then rest else cs
  | [] => []

/-- Not empty, and of characters of a kind or underscores. -/
def areDigits (p : Char → Bool) (cs : List Char) : Bool := !cs.isEmpty && cs.all fun c => p c || c = '_'

def isWhole : List Char → Bool
  | c :: rest => c.isDigit && rest.all fun d => d.isDigit || d = '_'
  | [] => false

def startsAboveZero (cs : List Char) : Bool := cs.headD '0' ≠ '0'

/-- A part after a colon: a number below sixty, of one or two digits. -/
def isSixtieth : List Char → Bool
  | [c] => c.isDigit
  | [c, d] => '0' ≤ c && c ≤ '5' && d.isDigit
  | _ => false

def isHexDigit (c : Char) : Bool := c.isDigit || ('a' ≤ c && c ≤ 'f') || ('A' ≤ c && c ≤ 'F')

def isInteger (cs : List Char) : Bool :=
  match unsigned cs with
  | '0' :: 'b' :: rest => areDigits (fun c => c = '0' || c = '1') rest
  | '0' :: 'x' :: rest => areDigits isHexDigit rest
  | ['0'] => true
  | '0' :: rest => areDigits (fun c => '0' ≤ c && c ≤ '7') rest
  | body =>
    match Text.pieces ':' body with
    | [] => false
    | first :: parts => isWhole first && startsAboveZero first && parts.all isSixtieth

def isExponent : List Char → Bool
  | [] => true
  | e :: sign :: digits => (e = 'e' || e = 'E') && isSign sign && !digits.isEmpty && digits.all Char.isDigit
  | _ => false

def isFraction (cs : List Char) : Bool := isExponent (cs.dropWhile fun c => c.isDigit || c = '_')

def infinities : List String := [".inf", ".Inf", ".INF"]

def notNumbers : List String := [".nan", ".NaN", ".NAN"]

def isFloat (cs : List Char) : Bool :=
  if notNumbers.contains (String.ofList cs) || infinities.contains (String.ofList (unsigned cs)) then true
  else
    match cs with
    | '.' :: c :: rest => c.isDigit && isFraction rest
    | _ =>
      match Text.cut '.' (unsigned cs) with
      | (_, none) => false
      | (before, some after) =>
        match Text.pieces ':' before with
        | [] => false
        | [whole] => isWhole whole && isFraction after
        | first :: parts =>
          isWhole first && parts.all isSixtieth && after.all fun c => c.isDigit || c = '_'

def boolWords : List String :=
  ["yes", "Yes", "YES", "no", "No", "NO", "true", "True", "TRUE", "false", "False", "FALSE", "on", "On", "ON", "off",
    "Off", "OFF"]

def nullWords : List String := ["", "~", "null", "Null", "NULL"]

/-- The time of day in a point in time, with the zone as minutes ahead of world time. -/
structure Clock where
  hour : Nat
  minute : Nat
  second : Nat
  micro : Nat
  zone : Option Int
deriving Repr

/-- The parts of a point in time: a date, and the time of day if there is one. -/
structure Timestamp where
  year : Nat
  month : Nat
  day : Nat
  time : Option Clock := none
deriving Repr

def natOf (cs : List Char) : Nat := cs.foldl (fun n c => 10 * n + (c.toNat - 48)) 0

def digits? (least most : Nat) (cs : List Char) : Option (Nat × List Char) :=
  let ds := (cs.takeWhile Char.isDigit).take most
  if least ≤ ds.length then some (natOf ds, cs.drop ds.length) else none

def literal? (c : Char) : List Char → Option (List Char)
  | d :: rest => if c = d then some rest else none
  | [] => none

def isSpace (c : Char) : Bool := c = ' ' || c = '\t'

/-- The zone at the end of a point in time, if there is one; the outer `none` is anything else. -/
def zone? (cs : List Char) : Option (Option Int) :=
  match cs.dropWhile isSpace with
  | [] => if cs.isEmpty then some none else none
  | ['Z'] => some (some 0)
  | sign :: rest => do
    if !isSign sign then none
    let (hours, rest) ← digits? 1 2 rest
    let (minutes, rest) ←
      match rest with
      | ':' :: more => digits? 2 2 more
      | _ => some (0, rest)
    if !rest.isEmpty then none
    let n : Int := 60 * hours + minutes
    return some (if sign = '-' then -n else n)

def millionths (ds : List Char) : Nat := natOf ((ds ++ List.replicate 6 '0').take 6)

def clock? (cs : List Char) : Option Clock := do
  let rest ←
    match cs with
    | 'T' :: rest | 't' :: rest => some rest
    | _ =>
      let rest := cs.dropWhile isSpace
      if rest.length < cs.length then some rest else none
  let (hour, rest) ← digits? 1 2 rest
  let (minute, rest) ← digits? 2 2 (← literal? ':' rest)
  let (second, rest) ← digits? 2 2 (← literal? ':' rest)
  let (micro, rest) :=
    match rest with
    | '.' :: more => (millionths (more.takeWhile Char.isDigit), more.dropWhile Char.isDigit)
    | _ => (0, rest)
  return { hour, minute, second, micro, zone := ← zone? rest }

/-- A point in time. A date alone has all its digits if it is `strict`. -/
def timestamp? (strict : Bool) (cs : List Char) : Option Timestamp := do
  let (year, rest) ← digits? 4 4 cs
  let (month, monthEnd) ← digits? 1 2 (← literal? '-' rest)
  let (day, rest) ← digits? 1 2 (← literal? '-' monthEnd)
  if rest.isEmpty then
    if !strict || cs.length = 10 then some { year, month, day } else none
  else some { year, month, day, time := some (← clock? rest) }

def withoutLineEnd (cs : List Char) : List Char := if cs.getLast? = some '\n' then cs.dropLast else cs

end Form

namespace Tag

def standard : String := "tag:yaml.org,2002:"

def null : String := standard ++ "null"

def bool : String := standard ++ "bool"

def int : String := standard ++ "int"

def float : String := standard ++ "float"

def binary : String := standard ++ "binary"

def timestamp : String := standard ++ "timestamp"

def omap : String := standard ++ "omap"

def pairs : String := standard ++ "pairs"

def set : String := standard ++ "set"

def str : String := standard ++ "str"

def seq : String := standard ++ "seq"

def map : String := standard ++ "map"

def merge : String := standard ++ "merge"

def value : String := standard ++ "value"

def yaml : String := standard ++ "yaml"

/-- The tag of a scalar whose form decides. A line end after it does not count. -/
def ofPlain (whole : String) : String :=
  let cs := if whole = "\n" then whole.toList else Form.withoutLineEnd whole.toList
  let text := String.ofList cs
  if Form.boolWords.contains text then bool
  else if Form.isFloat cs then float
  else if Form.isInteger cs then int
  else if text = "<<" then merge
  else if Form.nullWords.contains text then null
  else if (Form.timestamp? true cs).isSome then timestamp
  else if text = "=" then value
  else if ["!", "&", "*"].contains text then yaml
  else str

end Tag

end Vetted.Yaml
