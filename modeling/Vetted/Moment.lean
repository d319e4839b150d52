import Vetted.Date
import Vetted.Text.Half

namespace Vetted

structure Moment where
  date : Date
  hour : Nat
  minute : Nat
  second : Nat := 0
  micro : Nat := 0
  zone : Option Int := none
deriving Repr, DecidableEq, Inhabited

structure Span where
  minutes : Int
deriving Repr, DecidableEq, Inhabited

namespace Span

def secondsOfDay : Nat := 86400

def days (s : Span) : Int := Int.fdiv (s.minutes * 60) secondsOfDay

def seconds (s : Span) : Int := Int.fmod (s.minutes * 60) secondsOfDay

def callText (s : Span) : String :=
  let part (name : String) (n : Int) : List String := if n = 0 then [] else [name ++ "=" ++ toString n]
  let parts := part "days" s.days ++ part "seconds" s.seconds
  "datetime.timedelta(" ++ (if parts.isEmpty then "0" else Text.commaJoin parts) ++ ")"

/-- A clock is less than a day ahead of or behind world time. -/
def isZone (s : Span) : Bool := -1440 < s.minutes && s.minutes < 1440

/-- Hours and minutes with a sign. -/
def clockText (s : Span) : String :=
  let n := s.minutes.natAbs
  String.ofList ((if s.minutes < 0 then '-' else '+') :: Date.padded 2 (n / 60) ++ ':' :: Date.padded 2 (n % 60))

end Span

namespace Moment

def zoneText (minutes : Int) : String :=
  if minutes = 0 then "datetime.timezone.utc" else "datetime.timezone(" ++ (Span.mk minutes).callText ++ ")"

def callText (m : Moment) : String :=
  let small := if m.micro ≠ 0 then [m.second, m.micro] else if m.second ≠ 0 then [m.second] else []
  let parts := [m.date.year, m.date.month, m.date.day, m.hour, m.minute] ++ small
  "datetime.datetime(" ++ Text.commaJoin (parts.map toString) ++
    (match m.zone with
    | some minutes => ", tzinfo=" ++ zoneText minutes
    | none => "") ++ ")"

def text (m : Moment) : String :=
  m.date.isoText ++ " " ++
    String.ofList (Date.padded 2 m.hour ++ ':' :: Date.padded 2 m.minute ++ ':' :: Date.padded 2 m.second) ++
    (if m.micro = 0 then "" else "." ++ String.ofList (Date.padded 6 m.micro)) ++
    (match m.zone with
    | some minutes => (Span.mk minutes).clockText
    | none => "")

end Moment

end Vetted
