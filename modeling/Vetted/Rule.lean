import Vetted.Email
import Vetted.Value

namespace Vetted

open Number (Decimal)

inductive Comparison where
  | min
  | max
  | len
  | eq
  | ne
  | gt
  | gte
  | lt
  | lte
deriving Repr, DecidableEq, Inhabited

namespace Comparison

def holds : Comparison → Ordering → Bool
  | .min, o | .gte, o => o ≠ .lt
  | .max, o | .lte, o => o ≠ .gt
  | .len, o | .eq, o => o = .eq
  | .ne, o => o ≠ .eq
  | .gt, o => o = .gt
  | .lt, o => o = .lt

def description : Comparison → String
  | .min | .gte => "at least"
  | .max | .lte => "at most"
  | .len => "exactly"
  | .eq => "equal to"
  | .ne => "different from"
  | .gt => "greater than"
  | .lt => "less than"

end Comparison

inductive RuleKind where
  | omitEmpty
  | required
  | compare (c : Comparison)
  | oneOf
  | email
deriving Repr, DecidableEq, Inhabited

def RuleKind.ofName? : String → Option RuleKind
  | "omitempty" => some .omitEmpty
  | "required" => some .required
  | "min" => some (.compare .min)
  | "max" => some (.compare .max)
  | "len" => some (.compare .len)
  | "eq" => some (.compare .eq)
  | "ne" => some (.compare .ne)
  | "gt" => some (.compare .gt)
  | "gte" => some (.compare .gte)
  | "lt" => some (.compare .lt)
  | "lte" => some (.compare .lte)
  | "oneof" => some .oneOf
  | "email" => some .email
  | _ => none

/-- A rule of a tag: its kind, the name and the parameter that it is written with, and its whole token. -/
structure Rule where
  kind : RuleKind
  name : String
  param : String
  token : String
deriving Repr, DecidableEq, Inhabited

inductive RuleFault where
  | undefinedRule (name tag : String)
  | notNumber (token param : String)
  | inapplicable (token typeName : String)
deriving Repr, DecidableEq, Inhabited

def RuleFault.message : RuleFault → String
  | .undefinedRule name tag => "Undefined validation rule '" ++ name ++ "' in tag '" ++ tag ++ "'"
  | .notNumber token param => "Rule '" ++ token ++ "' expects a number, got '" ++ param ++ "'"
  | .inapplicable token typeName => "Rule '" ++ token ++ "' cannot apply to a " ++ typeName ++ " value"

namespace Rule

/-- A token as its name and its parameter, which is empty without an equals sign. -/
def split (token : String) : String × String :=
  let (name, param) := Text.cut '=' token.toList
  (String.ofList name, String.ofList (param.getD []))

def ofToken (tag token : String) : Except RuleFault Rule :=
  let (name, param) := split token
  match RuleKind.ofName? name with
  | some kind => .ok { kind, name, param, token }
  | none => .error (.undefinedRule name tag)

def ofPieces (tag : String) : List String → Except RuleFault (List Rule)
  | [] => .ok []
  | piece :: rest =>
    let token := Text.strip piece
    if token.isEmpty then ofPieces tag rest
    else do
      let r ← ofToken tag token
      let others ← ofPieces tag rest
      return r :: others

def parse (tag : String) : Except RuleFault (List Rule) := ofPieces tag (Text.splitOnChar ',' tag)

inductive Finding where
  | pass
  | broken (message : String)
  | tooLong
  | fault (f : RuleFault)
deriving Repr, DecidableEq, Inhabited

def bound (r : Rule) : Except RuleFault Decimal :=
  match Decimal.ofText? r.param with
  | some d => if d.isNan then .error (.notNumber r.token r.param) else .ok d
  | none => .error (.notNumber r.token r.param)

/-- What a value is measured by: its size or itself. An integer may be too long to be measured. -/
inductive Measure where
  | number (d : Decimal)
  | tooLong
  | unmeasured
deriving Repr, DecidableEq, Inhabited

def measure : Value → Measure
  | .int n => if (Value.intText? n).isSome then .number (.ofInt n) else .tooLong
  | .float x => .number x.toDecimal
  | .decimal d => .number d
  | v =>
    match v.size? with
    | some n => .number (.ofInt n)
    | none => .unmeasured

def unit (v : Value) : String := if v.size?.isSome then "length" else "value"

def checkBound (r : Rule) (c : Comparison) (v : Value) (b : Decimal) : Finding :=
  let wanted := c.description ++ " " ++ r.param
  match v with
  | .none => .broken ("is missing; must be " ++ wanted)
  | v =>
    match measure v with
    | .unmeasured => .fault (.inapplicable r.token v.typeName)
    | .tooLong => .tooLong
    | .number d =>
      match d.compare? b with
      | none => .broken ("value must be " ++ wanted ++ ", got NaN")
      | some o => if c.holds o then .pass else .broken (unit v ++ " must be " ++ wanted)

def checkOneOf (r : Rule) (v : Value) : Finding :=
  let allowed := Text.splitWords r.param
  let refusal := Finding.broken ("must be one of [" ++ Text.commaJoin allowed ++ "]")
  match v with
  | .none => refusal
  | v =>
    match v.text? with
    | none => .tooLong
    | some s => if allowed.contains s then .pass else refusal

def checkEmail (r : Rule) : Value → Finding
  | .none => .broken "must be a valid email address"
  | .text s => if Email.isAddress s then .pass else .broken "must be a valid email address"
  | v => .fault (.inapplicable r.token v.typeName)

def check (r : Rule) (v : Value) : Finding :=
  match r.kind with
  | .omitEmpty => .pass
  | .required => if v.isZero then .broken "is required" else .pass
  | .compare c =>
    match r.bound with
    | .ok b => r.checkBound c v b
    | .error f => .fault f
  | .oneOf => r.checkOneOf v
  | .email => r.checkEmail v

end Rule

end Vetted
