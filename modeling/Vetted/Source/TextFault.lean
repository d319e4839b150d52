import Vetted.Number.Numeral
import Vetted.Source.Printer

namespace Vetted.Source

inductive TextFault where
  | backslash
  | longInteger
deriving Repr, DecidableEq, Inhabited

def TextFault.message : TextFault → String
  | .backslash => "Unable to avoid backslash in f-string expression part"
  | .longInteger => Number.Numeral.unwrittenMessage

def Constant.textFault? : Constant → Option TextFault
  | .number (.integer n) => if n < Nat.pow 10 Number.Numeral.maxDigits then Option.none else some .longInteger
  | _ => Option.none

mutual

def Expr.textFault? : Expr → Option TextFault
  | .name _ => none
  | .constant c => c.textFault?
  | .attribute object _ => object.textFault?
  | .subscript object index => object.textFault?.or index.textFault?
  | .slice lower upper step => (optionFault? lower).or ((optionFault? upper).or (optionFault? step))
  | .tuple items | .list items | .set items => firstFault? items
  | .dict items => itemFault? items
  | .starred value => value.textFault?
  | .call function arguments keywords => function.textFault?.or ((firstFault? arguments).or (keywordFault? keywords))
  | .unary _ operand => operand.textFault?
  | .binary _ left right => left.textFault?.or right.textFault?
  | .boolean _ first second others => first.textFault?.or (second.textFault?.or (firstFault? others))
  | .compare left _ right others => left.textFault?.or (right.textFault?.or (compareFault? others))
  | .conditional test body other => body.textFault?.or (test.textFault?.or other.textFault?)
  | .lambda parameters body => (parameterFault? parameters).or body.textFault?
  | .listOf item clauses | .setOf item clauses | .generator item clauses => item.textFault?.or (clauseFault? clauses)
  | .dictOf key value clauses => key.textFault?.or (value.textFault?.or (clauseFault? clauses))
  | .await value => value.textFault?
  | .yield value => optionFault? value
  | .yieldFrom value => value.textFault?
  | .named target value => target.textFault?.or value.textFault?
  | .joined parts => firstFault? parts
  | .formatted value _ spec =>
    let own := if (value.textAt true Level.or).toList.contains '\\' then some TextFault.backslash else none
    value.textFault?.or (own.or (optionFault? spec))

def optionFault? : Option Expr → Option TextFault
  | none => none
  | some e => e.textFault?

def firstFault? : List Expr → Option TextFault
  | [] => none
  | e :: rest => e.textFault?.or (firstFault? rest)

def itemFault? : List (Option Expr × Nat × Expr) → Option TextFault
  | [] => none
  | (key, _, value) :: rest => (optionFault? key).or (value.textFault?.or (itemFault? rest))

def keywordFault? : List (Option String × Expr) → Option TextFault
  | [] => none
  | (_, value) :: rest => value.textFault?.or (keywordFault? rest)

def compareFault? : List (CompareOp × Expr) → Option TextFault
  | [] => none
  | (_, e) :: rest => e.textFault?.or (compareFault? rest)

def parameterFault? : List (ParameterRole × String × Option Expr) → Option TextFault
  | [] => none
  | (_, _, value) :: rest => (optionFault? value).or (parameterFault? rest)

def clauseFault? : List (Bool × Expr × Expr × List Expr) → Option TextFault
  | [] => none
  | (_, target, source, conditions) :: rest =>
    target.textFault?.or (source.textFault?.or ((firstFault? conditions).or (clauseFault? rest)))

end

end Vetted.Source
