import Vetted.Registry

namespace Vetted

structure Conventions where
  inputSuffix : String := "Input"
  domainSuffix : String := "Validated"
  passwordField : String := "password"
  passwordDomain : Option String := none
deriving Repr, DecidableEq, Inhabited

def Conventions.domainName (c : Conventions) (inputName : String) : String := inputName ++ c.domainSuffix

namespace Domain

/-- What happens to a field of an input record. -/
inductive Convention where
  | omit
  | custom (rule : TransformRule)
  | hash
  | direct
deriving Repr, DecidableEq, Inhabited

/-- How the value of a domain field is made from the field that it comes from. -/
inductive TransformKind where
  | copy
  | custom
  | cast
deriving Repr, DecidableEq, Inhabited

/-- A field of a domain record. `coerceText` says that its value is turned into text. -/
structure Field where
  name : String
  typeName : String
  source : String
  kind : TransformKind := .copy
  rule : Option TransformRule := none
  needsHashing : Bool := false
  coerceText : Bool := false
deriving Repr, DecidableEq, Inhabited

structure Record where
  name : String
  inputName : String
  fields : List Field := []
  capabilities : List String := []
deriving Repr, DecidableEq, Inhabited

namespace Record

def fieldNames (r : Record) : List String := r.fields.map Field.name

def hasTransforms (r : Record) : Bool := r.fields.any (·.kind = .custom)

def hasCoercions (r : Record) : Bool := r.fields.any Field.coerceText

end Record

def isOmitted (f : Declaration.Field) : Bool :=
  Text.strip f.serializeTag = "-" || Text.strip f.transformTag = "omit"

def hasMinRule (f : Declaration.Field) : Bool := f.rules.any (Text.startsWith · "min=")

def classify (g : Registry) (c : Conventions) (f : Declaration.Field) : Convention :=
  if isOmitted f then .omit
  else
    match g.lookup f.typeName with
    | some rule => .custom rule
    | none => if f.name = c.passwordField && hasMinRule f then .hash else .direct

def passwordName (c : Conventions) (f : Declaration.Field) : String :=
  match c.passwordDomain with
  | some name => if name.isEmpty then f.name else name
  | none => f.name

def fieldUnder (c : Conventions) (f : Declaration.Field) : Convention → Option Field
  | .omit => none
  | .custom rule =>
    some { name := rule.targetField, typeName := rule.targetType, source := f.name, kind := .custom, rule := some rule }
  | .hash =>
    some { name := passwordName c f, typeName := "str", source := f.name, needsHashing := true,
           coerceText := f.typeName ≠ "str" }
  | .direct => some { name := f.name, typeName := f.typeName, source := f.name }

def fieldOf? (g : Registry) (c : Conventions) (f : Declaration.Field) : Option Field :=
  fieldUnder c f (classify g c f)

def Convention.capability? : Convention → Option String
  | .custom rule => rule.capability.filter (!·.isEmpty)
  | _ => none

def capabilitiesOf (g : Registry) (c : Conventions) (fields : List Declaration.Field) : List String :=
  Text.sortTexts (Text.distinct (fields.filterMap fun f => (classify g c f).capability?))

def resolve (g : Registry) (c : Conventions) (r : Declaration.Record) : Record :=
  { name := c.domainName r.name
    inputName := r.name
    fields := r.fields.filterMap (fieldOf? g c)
    capabilities := capabilitiesOf g c r.fields }

def noteOf? (g : Registry) (c : Conventions) (record : String) (f : Declaration.Field) : Option String :=
  let subject := record ++ "." ++ f.name ++ ": "
  match classify g c f with
  | .omit => some (subject ++ "omitted")
  | .custom rule =>
    some (subject ++ "custom transform via '" ++ rule.sourceType ++ "' -> " ++ rule.targetField ++ ": " ++
      rule.targetType)
  | .hash => some (subject ++ "hashing candidate -> " ++ passwordName c f ++ ": str")
  | .direct => none

def notes (g : Registry) (c : Conventions) (r : Declaration.Record) : List String :=
  r.fields.filterMap (noteOf? g c r.name)

end Domain

end Vetted
