import Vetted.Domain
import Vetted.InputClass
import Vetted.Password.Verification
import Vetted.Validation

namespace Vetted

/-- What a conversion depends on besides the value: the date of today and a fresh salt. -/
structure Circumstances where
  today : Date
  salt : List UInt8
deriving Repr, Inhabited

inductive ConverterFault where
  | unusable (message : String)
  | tooLong
  | password (f : Password.Fault)
deriving Repr, Inhabited

inductive Converter where
  | text
  | dateOfBirth
  | password
deriving Repr, DecidableEq, Inhabited

namespace Converter

def toText : Value → Except ConverterFault Value
  | .text s => .ok (.text s)
  | .bytes bs | .byteArray bs =>
    match Text.decodeUtf8 bs with
    | .ok s => .ok (.text s)
    | .error _ => .error (.unusable "value is not valid UTF-8 text")
  | .none => .error (.unusable "value is missing")
  | v =>
    match v.text? with
    | some s => .ok (.text s)
    | none => .error .tooLong

def toDateOfBirth (today : Date) : Value → Except ConverterFault Value
  | .text s =>
    match Date.ofText? s with
    | none => .error (.unusable ("'" ++ s ++ "' is not a date in YYYY-MM-DD format"))
    | some d =>
      if d.isAfter today then .error (.unusable ("date of birth " ++ d.isoText ++ " is in the future"))
      else .ok (.date d)
  | v => .error (.unusable ("expected a date string, got " ++ v.typeName))

def toHash (salt : List UInt8) : Value → Except ConverterFault Value
  | .text s =>
    if s.isEmpty then .error (.unusable "password must be a non-empty string")
    else
      match Password.Hash.make salt s with
      | .ok h => .ok (.text h.text)
      | .error f => .error (.password f)
  | _ => .error (.unusable "password must be a non-empty string")

def run (c : Circumstances) : Converter → Value → Except ConverterFault Value
  | .text, v => toText v
  | .dateOfBirth, v => toDateOfBirth c.today v
  | .password, v => toHash c.salt v

def typeName : Converter → String
  | .text => "to_text"
  | .dateOfBirth => "DateOfBirthString"
  | .password => "PlainPassword"

def ofType? : String → Option Converter
  | "fieldtypes.DateOfBirthString" => some .dateOfBirth
  | "fieldtypes.PlainPassword" => some .password
  | _ => none

end Converter

/-- Why the value of a field is not converted. -/
inductive FieldFault where
  | invalid (i : Invalid)
  | tooLong
  | password (f : Password.Fault)
deriving Repr, Inhabited

def transformField (typeName field : String) (convert : Value → Except ConverterFault Value) (raw : Value) :
    Except FieldFault Value :=
  match convert raw with
  | .ok v => .ok v
  | .error (.unusable message) => .error (.invalid { typeName, violations := [⟨field, "transform", message, raw⟩] })
  | .error .tooLong => .error .tooLong
  | .error (.password f) => .error (.password f)

inductive ConversionFault where
  | notRecord (typeName : String)
  | rule (f : RuleFault)
  | unencodable (f : Text.HalfFault)
  | failed (inputType : String) (cause : Invalid)
  | tooLong
  | password (f : Password.Fault)
deriving Repr, Inhabited

def ConversionFault.message : ConversionFault → String
  | .notRecord typeName => "validate_struct expects a dataclass instance, got " ++ typeName
  | .rule f => f.message
  | .unencodable f => f.message
  | .failed inputType cause => "validation failed for " ++ inputType ++ ": " ++ cause.message
  | .tooLong => Validation.tooLongMessage
  | .password f => f.message

def Validation.Problem.conversion (inputType : String) : Validation.Problem → ConversionFault
  | .fault f => .rule f
  | .unencodable f => .unencodable f
  | .invalid i => .failed inputType i

def FieldFault.conversion (inputType : String) : FieldFault → ConversionFault
  | .invalid i => .failed inputType i
  | .tooLong => .tooLong
  | .password f => .password f

namespace Conversion

def valueOf (values : List (String × Value)) (field : String) : Value := (values.lookup field).getD .none

def heldFields (input : InputClass) (values : List (String × Value)) : List Validation.Field :=
  input.fields.map fun (name, tag) => ⟨name, valueOf values name, tag⟩

def validated (inputType : String) (input : InputClass) (values : List (String × Value)) :
    Except ConversionFault Unit :=
  if input.isRecord then
    (Validation.validate input.name (heldFields input values)).mapError (Validation.Problem.conversion inputType)
  else .error (.notRecord input.name)

def converterOf? (f : Domain.Field) : Option Converter :=
  match f.kind, f.rule with
  | .custom, some rule => Converter.ofType? rule.sourceType
  | _, _ => if f.coerceText then some .text else none

def convertField (c : Circumstances) (values : List (String × Value)) (f : Domain.Field) : Except FieldFault Value :=
  let raw := valueOf values f.source
  match converterOf? f with
  | some converter => transformField converter.typeName f.source (converter.run c) raw
  | none => .ok raw

def convertFields (c : Circumstances) (values : List (String × Value)) :
    List Domain.Field → Except FieldFault (List (String × Value))
  | [] => .ok []
  | f :: rest => do
    let v ← convertField c values f
    let others ← convertFields c values rest
    return (f.name, v) :: others

/-- Validates an input and converts it. Every field with a tag is checked before any is converted, and the first
conversion that fails is reported. -/
def convert (c : Circumstances) (input : InputClass) (domain : Domain.Record) (values : List (String × Value)) :
    Except ConversionFault (List (String × Value)) := do
  validated domain.inputName input values
  (convertFields c values domain.fields).mapError (FieldFault.conversion domain.inputName)

end Conversion

end Vetted
