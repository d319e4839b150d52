import Vetted.Source.Literal

namespace Vetted.Source

inductive Field where
  | literal (raw : List Char)
  | value (source : List Char) (shown : Option (List Char)) (conversion : Option Char) (spec : Option (List Field))
      (linesBefore : Nat)
deriving Repr, Inhabited

structure FieldScan where
  quote : Option (Char × Bool) := none
  brackets : List Char := []

def takeFieldExpr : (fuel : Nat) → FieldScan → List Char → List Char → Option (List Char × List Char)
  | 0, _, _, _ => none
  | fuel + 1, st, taken, cs =>
    match cs with
    | [] => if st.quote.isNone && st.brackets.isEmpty then some (taken.reverse, []) else none
    | c :: rest =>
      if c = '\\' then none
      else
        match st.quote with
        | some (q, long) =>
          if c = q then
            if long then
              match rest with
              | a :: b :: more =>
                if a = q && b = q then takeFieldExpr fuel { st with quote := none } (b :: a :: c :: taken) more
                else takeFieldExpr fuel st (c :: taken) rest
              | _ => takeFieldExpr fuel st (c :: taken) rest
            else takeFieldExpr fuel { st with quote := none } (c :: taken) rest
          else takeFieldExpr fuel st (c :: taken) rest
        | none =>
          if c = '\'' || c = '"' then
            match rest with
            | a :: b :: more =>
              if a = c && b = c then takeFieldExpr fuel { st with quote := some (c, true) } (b :: a :: c :: taken) more
              else takeFieldExpr fuel { st with quote := some (c, false) } (c :: taken) rest
            | _ => takeFieldExpr fuel { st with quote := some (c, false) } (c :: taken) rest
          else if c = '(' || c = '[' || c = '\x7b' then
            takeFieldExpr fuel { st with brackets := c :: st.brackets } (c :: taken) rest
          else if c = '#' then none
          else if st.brackets.isEmpty && ['!', ':', '\x7d', '=', '<', '>'].contains c then
            let doubled := rest.head? = some '=' && ['!', '=', '<', '>'].contains c
            if doubled then takeFieldExpr fuel st ('=' :: c :: taken) (rest.drop 1)
            else if c = '<' || c = '>' then takeFieldExpr fuel st (c :: taken) rest
            else some (taken.reverse, cs)
          else if c = ')' || c = ']' || c = '\x7d' then
            match st.brackets with
            | o :: outer =>
              if (o = '(' && c = ')') || (o = '[' && c = ']') || (o = '\x7b' && c = '\x7d') then
                takeFieldExpr fuel { st with brackets := outer } (c :: taken) rest
              else none
            | [] => none
          else takeFieldExpr fuel st (c :: taken) rest

def takeLiteral (raw nested : Bool) : (fuel : Nat) → List Char → List Char → Option (List Char × List Char)
  | 0, _, _ => none
  | fuel + 1, taken, cs =>
    match cs with
    | [] => some (taken.reverse, [])
    | '\\' :: d :: rest =>
      if raw then takeLiteral raw nested fuel ('\\' :: taken) (d :: rest)
      else if d = 'N' then
        match rest with
        | '\x7b' :: more =>
          let inner := more.takeWhile (· ≠ '\x7d')
          let after := more.drop (inner.length + 1)
          takeLiteral raw nested fuel (('\\' :: 'N' :: '\x7b' :: inner ++ ['\x7d']).reverse ++ taken) after
        | _ => takeLiteral raw nested fuel ('N' :: '\\' :: taken) rest
      else if d = '\x7b' || d = '\x7d' then takeLiteral raw nested fuel ('\\' :: taken) (d :: rest)
      else takeLiteral raw nested fuel (d :: '\\' :: taken) rest
    | c :: rest =>
      if c = '\x7b' || c = '\x7d' then
        if !nested && rest.head? = some c then takeLiteral raw nested fuel (c :: taken) (rest.drop 1)
        else if !nested && c = '\x7d' then none
        else some (taken.reverse, cs)
      else takeLiteral raw nested fuel (c :: taken) rest

def isFieldBlank (c : Char) : Bool := c = ' ' || ('\t' ≤ c && c ≤ '\r')

def fieldMarks (source rest : List Char) : Option (Option (List Char) × Option Char × List Char) :=
  let (shown, rest) :=
    match rest with
    | '=' :: more =>
      let blanks := more.takeWhile isFieldBlank
      (some (source ++ '=' :: blanks), more.drop blanks.length)
    | _ => (none, rest)
  match rest with
  | '!' :: c :: more => if c = 's' || c = 'r' || c = 'a' then some (shown, some c, more) else none
  | '!' :: [] => none
  | _ => some (shown, none, rest)

/-- The parts of a formatted string; `depth` counts how far formats are nested, which may happen once. In a format the
closing brace is left in the rest. -/
def takeFields (raw : Bool) : (fuel : Nat) → (depth : Nat) → (lines : Nat) → List Char → Option (List Field × List Char)
  | 0, _, _, _ => none
  | fuel + 1, depth, lines, cs => do
    let (text, rest) ← takeLiteral raw (0 < depth) (cs.length + 1) [] cs
    let lines := lines + text.count '\n'
    let front := if text.isEmpty then [] else [Field.literal text]
    match rest with
    | '\x7b' :: inner =>
      if 2 ≤ depth then none
      else do
        let (source, rest) ← takeFieldExpr (inner.length + 1) {} [] inner
        if source.all isFieldBlank || rest.isEmpty then none
        else do
          let (shown, conversion, rest) ← fieldMarks source rest
          let linesAfter := lines + source.count '\n'
          let (spec, rest) ←
            (match rest with
            | ':' :: more => do
              let (fields, rest) ← takeFields raw fuel (depth + 1) linesAfter more
              return (some fields, rest)
            | _ => some (none, rest))
          match rest with
          | '\x7d' :: rest => do
            let conversion := if shown.isSome && spec.isNone && conversion.isNone then some 'r' else conversion
            let (more, rest) ← takeFields raw fuel depth linesAfter rest
            return (front ++ .value source shown conversion spec lines :: more, rest)
          | _ => none
    | _ => return (front, rest)

def fieldsOf (raw : Bool) (body : List Char) : Option (List Field) := do
  let (fields, rest) ← takeFields raw (body.length + 1) 0 0 body
  if rest.isEmpty then some fields else none

end Vetted.Source
