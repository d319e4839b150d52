import Vetted.Moment
import Vetted.Number.Numeral
import Vetted.Text.Quoted

namespace Vetted.Yaml

inductive Fault where
  | malformed
  | unread
  | noCharacter
  | hugeCharacter
  | noInteger (fault : Number.Numeral.Fault)
  | noFloat (text : String)
  | noBool (text : String)
  | emptyNumber
  | noTimestamp
  | badYear (year : Nat)
  | badMonth
  | badDay
  | badTime (part : String) (last : Nat)
  | badZone (span : Span)
  | hugeFloat
deriving Repr, DecidableEq, Inhabited

def Fault.message : Fault → String
  | .malformed | .unread => "<yaml>"
  | .noCharacter => "chr() arg not in range(0x110000)"
  | .hugeCharacter => "Python int too large to convert to C int"
  | .noInteger fault => fault.message
  | .noFloat text => "could not convert string to float: " ++ Text.quote text
  | .noBool text => Text.quote text
  | .emptyNumber => "string index out of range"
  | .noTimestamp => "'NoneType' object has no attribute 'groupdict'"
  | .badYear year => "year " ++ toString year ++ " is out of range"
  | .badMonth => "month must be in 1..12"
  | .badDay => "day is out of range for month"
  | .badTime part last => part ++ " must be in 0.." ++ toString last
  | .badZone span =>
    "offset must be a timedelta strictly between -timedelta(hours=24) and timedelta(hours=24), not " ++
      span.callText ++ "."
  | .hugeFloat => "int too large to convert to float"

end Vetted.Yaml
