import Vetted.Text.Basic
import Vetted.Text.Half

namespace Vetted.Settings

inductive Cause where
  | notSettings
  | notRule
  | required
  | notText
  | undecodableText
  | emptyText
  | notList
  | emptyList
  | notFlag
  | unclearFlag
  | notInteger
  | unclearInteger
  | fraction
  | notFinite
  | hugeInteger
  | notAbove (bound : Nat)
  | notVariant
  | unknownKey
  | keyNotText
  | badName (name : String)
  | badModule (path : String)
  | badSuffix (suffix : String)
  | blankFile (index : Nat)
  | otherFile (name : String)
deriving Repr, DecidableEq, Inhabited

namespace Cause

/-- Why a value that could be read is refused all the same. -/
def reason? : Cause → Option String
  | .badName name => some ("'" ++ name ++ "' is not a valid Python identifier or is a reserved keyword.")
  | .badModule path => some ("'" ++ path ++ "' is not a dotted module path.")
  | .badSuffix suffix => some ("'" ++ suffix ++ "' must be a non-empty mix of letters, digits and underscores.")
  | .blankFile index => some ("Item at index " ++ toString index ++ " cannot be empty or just whitespace.")
  | .otherFile name => some ("'" ++ name ++ "' is not a Python file.")
  | _ => none

def message : Cause → String
  | .notSettings => "Input should be a valid dictionary or instance of GeneratorConfigSchema"
  | .notRule => "Input should be a valid dictionary or instance of TransformRuleSettings"
  | .required => "Field required"
  | .notText => "Input should be a valid string"
  | .undecodableText => "Input should be a valid string, unable to parse raw data as a unicode string"
  | .emptyText => "String should have at least 1 character"
  | .notList => "Input should be a valid list"
  | .emptyList => "List should have at least 1 item after validation, not 0"
  | .notFlag => "Input should be a valid boolean"
  | .unclearFlag => "Input should be a valid boolean, unable to interpret input"
  | .notInteger => "Input should be a valid integer"
  | .unclearInteger => "Input should be a valid integer, unable to parse string as an integer"
  | .fraction => "Input should be a valid integer, got a number with a fractional part"
  | .notFinite => "Input should be a finite number"
  | .hugeInteger => "Unable to parse input string as an integer, exceeded maximum size"
  | .notAbove bound => "Input should be greater than " ++ toString bound
  | .notVariant => "Input should be 'direct' or 'newtype'"
  | .unknownKey => "Extra inputs are not permitted"
  | .keyNotText => "Keys should be strings"
  | cause => "Value error, " ++ cause.reason?.getD ""

end Cause

structure Problem where
  place : List String
  cause : Cause
deriving Repr, DecidableEq, Inhabited

namespace Problem

def placeText (p : Problem) : String := if p.place.isEmpty then "Top Level" else " -> ".intercalate p.place

def text (p : Problem) : String := p.placeText ++ ": " ++ p.cause.message

def note (p : Problem) : String := "Configuration error at '" ++ p.placeText ++ "': " ++ p.cause.message

/-- What cannot be encoded in the reason that is given. -/
def unencodable? (p : Problem) : Option Text.HalfFault := p.cause.reason?.bind (Text.halfFault? Text.isHalf)

def under (key : String) (p : Problem) : Problem := { p with place := key :: p.place }

end Problem

abbrev Checked (α : Type) := Except (List Problem) α

def refuse {α : Type} (cause : Cause) : Checked α := .error [⟨[], cause⟩]

def problemsOf {α : Type} : Checked α → List Problem
  | .ok _ => []
  | .error ps => ps

def under {α : Type} (key : String) (r : Checked α) : Checked α := r.mapError (List.map (Problem.under key))

end Vetted.Settings
