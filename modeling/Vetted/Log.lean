import Vetted.Text.Basic
import Vetted.Text.Case

namespace Vetted.Log

abbrev Level := Int

def debug : Level := 10

def info : Level := 20

def warning : Level := 30

def error : Level := 40

def critical : Level := 50

def levelName (l : Level) : String :=
  if l = 0 then "NOTSET"
  else if l = debug then "DEBUG"
  else if l = info then "INFO"
  else if l = warning then "WARNING"
  else if l = error then "ERROR"
  else if l = critical then "CRITICAL"
  else "Level " ++ toString l

structure Entry where
  level : Level
  message : String
deriving Repr, DecidableEq, Inhabited

def successMark : String := "✓ "

def progressMark : String := "→ "

def highlightMark : String := "• "

def rule (length : Nat) : String := Text.repeated length '='

def success (message : String) : Entry := ⟨info, successMark ++ message⟩

def progress (message : String) : Entry := ⟨info, progressMark ++ message⟩

def highlight (message : String) : Entry := ⟨info, highlightMark ++ message⟩

/-- A heading between two rules. -/
def heading (title : String) : List Entry :=
  [⟨info, rule 60⟩, ⟨info, "  " ++ Text.upper title⟩, ⟨info, rule 60⟩]

/-- Where entries are shown: those from `level` on, in colour or not. -/
structure Console where
  level : Level := info
  colored : Bool := false
deriving Repr, Inhabited

def bold : String := "\x1b[1m"

def plain : String := "\x1b[0m"

/-- The colour of an entry; empty for none. -/
def color (e : Entry) : String :=
  if warning ≤ e.level then
    if e.level = warning then "\x1b[33m"
    else if e.level = error then "\x1b[31m"
    else if e.level = critical then "\x1b[35m"
    else ""
  else if Text.startsWith e.message successMark then "\x1b[92m" ++ bold
  else if Text.startsWith e.message progressMark then "\x1b[94m"
  else if Text.startsWith e.message highlightMark then "\x1b[96m"
  else if Text.startsWith (Text.strip e.message) (rule 20) then bold ++ "\x1b[96m"
  else if e.level = debug then "\x1b[36m"
  else ""

namespace Console

def shows (c : Console) (e : Entry) : Bool := 0 < e.level && c.level ≤ e.level

/-- What the console writes for an entry. -/
def write (c : Console) (e : Entry) : String :=
  if !c.shows e then ""
  else
    let text := levelName e.level ++ ": " ++ e.message
    let paint := if c.colored then color e else ""
    (if paint.isEmpty then text else paint ++ text ++ plain) ++ "\n"

def writeAll (c : Console) (es : List Entry) : String := String.join (es.map c.write)

end Console

end Vetted.Log
