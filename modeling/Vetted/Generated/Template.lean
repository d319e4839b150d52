import Vetted.Generated.Rendering

namespace Vetted.Generated

open Domain (TransformKind)

inductive Piece where
  | text (s : String)
  | slot (name : String)
deriving Repr, DecidableEq, Inhabited

abbrev Variables := List (String × String)

namespace Template

def normalise (s : String) : String :=
  match (Text.unifyLineEnds s.toList).reverse with
  | '\n' :: rest => String.ofList rest.reverse
  | all => String.ofList all.reverse

/-- Reads text and slots, `run` being the text or slot under way in reverse and `inSlot` telling which. -/
def read (inSlot : Bool) (run : List Char) : List Char → List Piece
  | '\x7b' :: '\x7b' :: rest =>
    if inSlot then read true ('\x7b' :: '\x7b' :: run) rest
    else .text (String.ofList run.reverse) :: read true [] rest
  | '\x7d' :: '\x7d' :: rest =>
    if inSlot then .slot (Text.strip (String.ofList run.reverse)) :: read false [] rest
    else read false ('\x7d' :: '\x7d' :: run) rest
  | c :: rest => read inSlot (c :: run) rest
  | [] => [.text (String.ofList run.reverse)]

def pieces (text : String) : List Piece := read false [] (normalise text).toList

def fill (scope : Variables) : List Piece → Except String String
  | [] => .ok ""
  | .text s :: rest => do return s ++ (← fill scope rest)
  | .slot name :: rest =>
    match scope.lookup name with
    | some value => do return value ++ (← fill scope rest)
    | none => .error ("'" ++ name ++ "' is undefined")

end Template

/-- Where the texts of a generated module come from: the ones that come with the program, or templates by name. -/
inductive Texts where
  | standard
  | custom (templates : List (String × String))
deriving Repr, Inhabited

def Texts.fillNamed (templates : List (String × String)) (name : String) (scope : Variables)
    (record : Option String) : Except Failure String :=
  match templates.lookup name with
  | none => .error (.template name name record)
  | some text =>
    match Template.fill scope (Template.pieces text) with
    | .ok s => .ok s
    | .error reason => .error (.template name reason record)

def listText (items : List String) : String := "[" ++ Text.commaJoin items ++ "]"

def Wrapper.text (w : Wrapper) : String :=
  "WrapperType(name=" ++ Text.quote w.name ++ ", base_type=" ++ Text.quote w.base ++ ")"

def kindText : TransformKind → String
  | .copy => "<TransformKind.DIRECT_COPY: 'direct_copy'>"
  | .custom => "<TransformKind.CUSTOM_TRANSFORM: 'custom_transform'>"
  | .cast => "<TransformKind.NEWTYPE_CAST: 'newtype_cast'>"

def Field.text (f : Field) : String :=
  "RenderedField(name=" ++ Text.quote f.name ++ ", annotation=" ++ Text.quote f.typing ++ ", value_expr=" ++
    Text.quote f.value.text ++ ", kind=" ++ kindText f.kind ++ ", wrapper=" ++
    (match f.wrapper with | some w => w.text | none => "None") ++ ", comment=" ++ Text.quote f.comment ++ ")"

end Vetted.Generated
