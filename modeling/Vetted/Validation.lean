import Vetted.Rule

namespace Vetted

structure Violation where
  field : String
  rule : String
  message : String
  value : Value
deriving Repr, Inhabited

def Violation.text (v : Violation) : String := v.field ++ ": " ++ v.message

def Violation.unencodable? (v : Violation) : Option Text.HalfFault := Text.halfFault? Text.isHalf v.rule

structure Invalid where
  typeName : String
  violations : List Violation
deriving Repr, Inhabited

namespace Invalid

def fields (i : Invalid) : List String := i.violations.map Violation.field

def message (i : Invalid) : String :=
  i.typeName ++ " has " ++ toString i.violations.length ++ " invalid field(s): " ++
    "; ".intercalate (i.violations.map Violation.text)

end Invalid

namespace Validation

structure Field where
  name : String
  value : Value
  tag : Option String
deriving Repr, Inhabited

inductive Problem where
  | fault (f : RuleFault)
  | unencodable (f : Text.HalfFault)
  | invalid (i : Invalid)
deriving Repr, Inhabited

def tooLongMessage : String := Number.Numeral.unwrittenMessage

def checkRules (name : String) (v : Value) : List Rule → Except RuleFault (Option Violation)
  | [] => .ok none
  | r :: rest =>
    if r.kind = .omitEmpty && v.isZero then .ok none
    else
      match r.check v with
      | .pass => checkRules name v rest
      | .broken message => .ok (some ⟨name, r.token, message, v⟩)
      | .tooLong => .ok (some ⟨name, "value_error", "Value error, " ++ tooLongMessage, v⟩)
      | .fault f => .error f

def rulesOf (tag : Option String) : Except RuleFault (List Rule) :=
  match tag with
  | some tag => Rule.parse tag
  | none => .ok []

def withRules (f : Field) : Except RuleFault (Field × List Rule) := do return (f, ← rulesOf f.tag)

def checkField (f : Field × List Rule) : Except RuleFault (Option Violation) := checkRules f.1.name f.1.value f.2

/-- What the violations found on the fields of a record come to. They are reported only if all of them can be told. -/
def conclude (typeName : String) (found : List (Option Violation)) : Except Problem Unit :=
  match found.filterMap id with
  | [] => .ok ()
  | violations =>
    match violations.findSome? Violation.unencodable? with
    | some f => .error (.unencodable f)
    | none => .error (.invalid { typeName, violations })

/-- Checks all fields of a record. The tags of all fields are read before any value is looked at. -/
def validate (typeName : String) (fields : List Field) : Except Problem Unit := do
  let ruled ← (fields.mapM withRules).mapError .fault
  let found ← (ruled.mapM checkField).mapError .fault
  conclude typeName found

end Validation

end Vetted
