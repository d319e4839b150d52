import Vetted.Failure
import Vetted.Text.Quoted

namespace Vetted

/-- A custom field type and the domain field that it produces. -/
structure TransformRule where
  sourceType : String
  targetField : String
  targetType : String
  capability : Option String := none
deriving Repr, DecidableEq, Inhabited

def TransformRule.converter (r : TransformRule) : String := r.sourceType ++ ".to_validated"

/-- Rules in order of their source types, one for each. -/
structure Registry where
  rules : List TransformRule
deriving Repr, DecidableEq, Inhabited

namespace Registry

def empty : Registry := ⟨[]⟩

def putRule (r : TransformRule) : List TransformRule → List TransformRule
  | [] => [r]
  | s :: rest =>
    if s.sourceType = r.sourceType then r :: rest
    else if Text.before r.sourceType s.sourceType then r :: s :: rest
    else s :: putRule r rest

def put (g : Registry) (r : TransformRule) : Registry := ⟨putRule r g.rules⟩

def lookup (g : Registry) (typeName : String) : Option TransformRule :=
  g.rules.find? (·.sourceType = typeName)

def contains (g : Registry) (typeName : String) : Bool := (g.lookup typeName).isSome

def size (g : Registry) : Nat := g.rules.length

def extend (g : Registry) : List TransformRule → Except Failure Registry
  | [] => .ok g
  | r :: rest => if g.contains r.sourceType then .error (.duplicateRule r.sourceType) else extend (g.put r) rest

def ofRules (rules : List TransformRule) : Except Failure Registry := empty.extend rules

def merge (g : Registry) (rules : List TransformRule) : Except Failure Registry := do
  let added ← ofRules rules
  return added.rules.foldl put g

def overridden (g added : Registry) : List String := (added.rules.map TransformRule.sourceType).filter g.contains

def text (g : Registry) : String :=
  "TransformRegistry([" ++ Text.commaJoin (g.rules.map fun r => Text.quote r.sourceType) ++ "])"

def fieldTypesModule : String := "validgen.runtime.fieldtypes"

def standard : Registry :=
  ⟨[⟨"fieldtypes.DateOfBirthString", "date_of_birth", "datetime.date", some fieldTypesModule⟩,
    ⟨"fieldtypes.PlainPassword", "password_hash", "str", some fieldTypesModule⟩]⟩

end Registry

end Vetted
