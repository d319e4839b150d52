import Vetted.Proofs.GeneratedNames
import Vetted.Proofs.TextPieces
import Vetted.Proofs.WrapperNames

namespace Vetted.Proofs.PrintedFunction

open Generated GeneratedNames GeneratedProgram Resolution TextPieces WrapperNames

/-- What stands in a text between a front and a back. -/
def between? (front back text : String) : Option String := do
  let rest ← text.toList.dropPrefix? front.toList
  let middle ← rest.dropSuffix? back.toList
  return String.ofList middle

theorem between?_append (front middle back : String) : between? front back (front ++ middle ++ back) = some middle := by
  have hfront : (front ++ middle ++ back).toList.dropPrefix? front.toList = some (middle ++ back).toList :=
    List.dropPrefix?_eq_some_iff.2 ⟨front.toList, by simp, by simp⟩
  have hback : (middle ++ back).toList.dropSuffix? back.toList = some middle.toList :=
    List.dropSuffix?_eq_some_iff.2 ⟨back.toList, by simp, by simp⟩
  simp only [between?, hfront, hback, Option.bind_eq_bind, Option.bind_some, String.ofList_toList, Option.pure_def]

theorem getLast?_splitOnChar {sep : Char} {glue last : String} (hglue : glue.toList = [sep]) (hlast : sep ∉ last.toList)
    (front : String) : (Text.splitOnChar sep (front ++ glue ++ last)).getLast? = some last := by
  have hsingle : Text.splitOnChar sep last = [last] := by
    rw [Text.splitOnChar, pieces_of_not_mem hlast, List.map_singleton, String.ofList_toList]
  rw [splitOnChar_joined hglue, hsingle, List.getLast?_concat]

theorem length_cut {sep : Char} {cs front back : List Char} (h : Text.cut sep cs = (front, some back)) :
    back.length < cs.length := by
  induction cs generalizing front with
  | nil => cases h
  | cons c cs ih =>
      rw [Text.cut] at h
      split at h
      · obtain rfl := Option.some.inj (Prod.mk.inj h).2
        simp
      · have hrest := ih (Prod.ext rfl (Prod.mk.inj h).2)
        simp only [List.length_cons]
        omega

/-- Reads what a conversion is applied to. The field stands last. -/
def readTransform (text : String) : Option ValueExpr := do
  let source ← (Text.splitOnChar '.' text).getLast?
  let converter ← between? (Text.quote source ++ ", ") (", value." ++ source) text
  return .transform source converter

def readValue (cs : List Char) : Option ValueExpr :=
  match _ : Text.cut '(' cs with
  | (front, none) => (between? "value." "" (String.ofList front)).map .copy
  | (front, some back) =>
    if back.getLast? ≠ some ')' then none
    else if front = "transform_field".toList then readTransform (String.ofList back.dropLast)
    else (readValue back.dropLast).map (.wrap (String.ofList front))
termination_by cs.length
decreasing_by
  have hback := length_cut ‹Text.cut '(' cs = (front, some back)›
  rw [List.length_dropLast]
  omega

/-- An expression whose text can be told apart: no field has a bracket or a point in its name, and no wrapper a
bracket. -/
def Legible : ValueExpr → Prop
  | .copy source => '(' ∉ source.toList
  | .transform source _ => '.' ∉ source.toList
  | .wrap wrapper inner => '(' ∉ wrapper.toList ∧ wrapper ≠ "transform_field" ∧ Legible inner

theorem text_copy (source : String) : (ValueExpr.copy source).text = "value." ++ source := rfl

theorem text_transform (source converter : String) :
    (ValueExpr.transform source converter).text =
      "transform_field(" ++ Text.quote source ++ ", " ++ converter ++ ", value." ++ source ++ ")" := rfl

theorem text_wrap (wrapper : String) (inner : ValueExpr) :
    (ValueExpr.wrap wrapper inner).text = wrapper ++ "(" ++ inner.text ++ ")" := rfl

theorem readTransform_text {source converter : String} (h : '.' ∉ source.toList) :
    readTransform (Text.quote source ++ ", " ++ converter ++ ", value." ++ source) =
      some (.transform source converter) := by
  have hsource : (Text.splitOnChar '.' (Text.quote source ++ ", " ++ converter ++ ", value." ++ source)).getLast? =
      some source := by
    have hpoint : Text.quote source ++ ", " ++ converter ++ ", value." ++ source =
        Text.quote source ++ ", " ++ converter ++ ", value" ++ "." ++ source := by
      simp [← String.toList_inj]
    rw [hpoint]
    exact getLast?_splitOnChar rfl h _
  have hconverter := between?_append (Text.quote source ++ ", ") converter (", value." ++ source)
  rw [← String.append_assoc] at hconverter
  simp [readTransform, hsource, hconverter]

theorem readValue_of_no_bracket {cs : List Char} (h : '(' ∉ cs) :
    readValue cs = (between? "value." "" (String.ofList cs)).map .copy := by
  have hcut := cut_of_not_mem h
  rw [readValue]
  split
  · rename_i hnone
    rw [hcut] at hnone
    obtain ⟨rfl, -⟩ := Prod.mk.inj hnone
    rfl
  · rename_i hsome
    rw [hcut] at hsome
    cases hsome

theorem readValue_of_bracket {front inner : List Char} (h : '(' ∉ front) :
    readValue (front ++ '(' :: inner ++ [')']) =
      if front = "transform_field".toList then readTransform (String.ofList inner)
      else (readValue inner).map (.wrap (String.ofList front)) := by
  have hcut : Text.cut '(' (front ++ '(' :: inner ++ [')']) = (front, some (inner ++ [')'])) := by
    rw [List.append_assoc, List.cons_append]
    exact cut_append h _
  rw [readValue]
  split
  · rename_i hnone
    rw [hcut] at hnone
    cases hnone
  · rename_i hsome
    rw [hcut] at hsome
    cases hsome
    rw [if_neg (by simp), List.dropLast_concat]

/-- The text of an expression says which one it is. -/
theorem readValue_text {e : ValueExpr} (h : Legible e) : readValue e.text.toList = some e := by
  induction e with
  | copy source =>
      have hbracket : '(' ∉ ("value." ++ source).toList := by
        rw [String.toList_append, List.mem_append, not_or]
        exact ⟨by simp, h⟩
      have hsource : between? "value." "" ("value." ++ source) = some source := by
        simpa using between?_append "value." source ""
      rw [text_copy, readValue_of_no_bracket hbracket, String.ofList_toList, hsource, Option.map_some]
  | transform source converter =>
      have htext : (ValueExpr.transform source converter).text.toList = "transform_field".toList ++
          '(' :: (Text.quote source ++ ", " ++ converter ++ ", value." ++ source).toList ++ [')'] := by
        simp [text_transform]
      rw [htext, readValue_of_bracket (by decide), if_pos rfl, String.ofList_toList]
      exact readTransform_text h
  | wrap wrapper inner ih =>
      obtain ⟨hbracket, hother, hinner⟩ := h
      have htext : (ValueExpr.wrap wrapper inner).text.toList = wrapper.toList ++ '(' :: inner.text.toList ++
          [')'] := by
        simp [text_wrap]
      rw [htext, readValue_of_bracket hbracket, if_neg (mt String.toList_inj.1 hother), ih hinner, Option.map_some,
        String.ofList_toList]

/-- A function as its lines tell it: its name, what it takes, and the record that it builds with these arguments. -/
structure Function where
  name : String
  inputName : String
  recordName : String
  arguments : List (String × ValueExpr)
deriving DecidableEq

def readArgument (line : String) : Option (String × ValueExpr) := do
  let text ← between? "            " "," line
  match Text.cut '=' text.toList with
  | (front, some back) => return (String.ofList front, ← readValue back)
  | (_, none) => none

theorem argument_eq (f : Field) : f.argument = "            " ++ (f.name ++ "=" ++ f.value.text) ++ "," := by
  have hunfold : f.argument = "            " ++ f.name ++ "=" ++ f.value.text ++ "," := rfl
  simp only [hunfold, String.append_assoc]

theorem readArgument_argument {f : Field} (hname : '=' ∉ f.name.toList) (hvalue : Legible f.value) :
    readArgument f.argument = some (f.name, f.value) := by
  have hcut : Text.cut '=' (f.name ++ "=" ++ f.value.text).toList = (f.name.toList, some f.value.text.toList) := by
    rw [String.toList_append, String.toList_append, List.append_assoc]
    exact cut_append hname _
  rw [readArgument, argument_eq, between?_append]
  simp only [Option.bind_eq_bind, Option.bind_some, hcut, readValue_text hvalue, Option.pure_def, String.ofList_toList]

/-- What a function does when the checked call fails. -/
def handler (inputName : String) : List String :=
  ["        )", "    except StructValidationError as err:",
    "        raise ConversionError(" ++ Text.quote inputName ++ ", err) from err"]

def comment (inputName recordName : String) : List String :=
  ["    \"\"\"Validate a " ++ inputName ++ " and convert it into a " ++ recordName ++ ".", "", "    Raises:",
    "        ConversionError: If a validation rule or a field transform fails.",
    "            No " ++ recordName ++ " is constructed in that case.", "    \"\"\""]

/-- Reads the lines of a function: the head, and after the comment a call under `try` with one argument on each line. -/
def Function.ofLines? : List String → Option Function
  | _ :: _ :: head :: rest =>
    match rest.dropWhile (· ≠ "    try:") with
    | _ :: check :: opening :: body => do
      let recordName ← between? "        return " "(" opening
      let signature ← between? "def " (") -> " ++ recordName ++ ":") head
      let inputName ← (Text.splitOnChar ' ' signature).getLast?
      let name ← between? "" ("(value: " ++ inputName) signature
      let arguments ← (body.takeWhile (· ≠ "        )")).mapM readArgument
      if check = "        validate_struct(value)" ∧ body.dropWhile (· ≠ "        )") = handler inputName then
        some ⟨name, inputName, recordName, arguments⟩
      else none
    | _ => none
  | _ => none

/-- The function of a routine. -/
def functionOf (r : Routine) : Function :=
  ⟨r.name, r.record.inputName, r.record.name, r.fields.map fun f => (f.name, f.value)⟩

structure LegibleRoutine (r : Routine) : Prop where
  input : ' ' ∉ r.record.inputName.toList
  names : ∀ f ∈ r.fields, '=' ∉ f.name.toList
  values : ∀ f ∈ r.fields, Legible f.value

theorem mapM_readArgument {fields : List Field} (hnames : ∀ f ∈ fields, '=' ∉ f.name.toList)
    (hvalues : ∀ f ∈ fields, Legible f.value) :
    (fields.map Field.argument).mapM readArgument = some (fields.map fun f => (f.name, f.value)) := by
  induction fields with
  | nil => rfl
  | cons f rest ih =>
      have hrest := ih (fun g hg => hnames g (by simp [hg])) fun g hg => hvalues g (by simp [hg])
      rw [List.map_cons, List.mapM_cons, readArgument_argument (hnames f (by simp)) (hvalues f (by simp)), hrest]
      rfl

theorem argument_ne_closing (f : Field) : f.argument ≠ "        )" := by
  intro h
  have hchars := String.toList_inj.2 h
  simp [argument_eq] at hchars

theorem body_split (fields : List Field) (inputName : String) :
    (fields.map Field.argument ++ handler inputName).takeWhile (· ≠ "        )") = fields.map Field.argument ∧
      (fields.map Field.argument ++ handler inputName).dropWhile (· ≠ "        )") = handler inputName := by
  have hcalls : ∀ line ∈ fields.map Field.argument, decide (line ≠ "        )") = true := by
    intro line hline
    obtain ⟨f, -, rfl⟩ := List.mem_map.1 hline
    exact decide_eq_true (argument_ne_closing f)
  rw [List.takeWhile_append_of_pos hcalls, List.dropWhile_append_of_pos hcalls]
  simp [handler]

theorem comment_split (inputName recordName : String) (rest : List String) :
    (comment inputName recordName ++ "    try:" :: rest).dropWhile (· ≠ "    try:") = "    try:" :: rest := by
  have hapart : ∀ line ∈ comment inputName recordName, decide (line ≠ "    try:") = true := by
    intro line hline
    refine decide_eq_true ?_
    rintro rfl
    simp [comment, ← String.toList_inj] at hline
  rw [List.dropWhile_append_of_pos hapart]
  simp

theorem functionLines_eq (r : Routine) :
    functionLines r.record r.fields =
      "" :: "" :: ("def " ++ r.name ++ "(value: " ++ r.record.inputName ++ ") -> " ++ r.record.name ++ ":") ::
        (comment r.record.inputName r.record.name ++
          "    try:" :: "        validate_struct(value)" :: ("        return " ++ r.record.name ++ "(") ::
            (r.fields.map Field.argument ++ handler r.record.inputName)) := rfl

/-- The lines of a routine say which function it is. -/
theorem ofLines?_functionLines {r : Routine} (h : LegibleRoutine r) :
    Function.ofLines? (functionLines r.record r.fields) = some (functionOf r) := by
  have hopening := between?_append "        return " r.record.name "("
  have hsignature : between? "def " (") -> " ++ r.record.name ++ ":")
      ("def " ++ r.name ++ "(value: " ++ r.record.inputName ++ ") -> " ++ r.record.name ++ ":") =
        some (r.name ++ "(value: " ++ r.record.inputName) := by
    simpa [String.append_assoc] using
      between?_append "def " (r.name ++ "(value: " ++ r.record.inputName) (") -> " ++ r.record.name ++ ":")
  have hinput : (Text.splitOnChar ' ' (r.name ++ "(value: " ++ r.record.inputName)).getLast? =
      some r.record.inputName := by
    have hblank : r.name ++ "(value: " ++ r.record.inputName = r.name ++ "(value:" ++ " " ++ r.record.inputName := by
      simp [← String.toList_inj]
    rw [hblank]
    exact getLast?_splitOnChar rfl h.input _
  have hname : between? "" ("(value: " ++ r.record.inputName) (r.name ++ "(value: " ++ r.record.inputName) =
      some r.name := by
    simpa [String.append_assoc] using between?_append "" r.name ("(value: " ++ r.record.inputName)
  obtain ⟨hcalls, hhandler⟩ := body_split r.fields r.record.inputName
  rw [functionLines_eq, Function.ofLines?, comment_split]
  simp only [hopening, hsignature, hinput, hname, hcalls, hhandler, mapM_readArgument h.names h.values,
    Option.bind_eq_bind, Option.bind_some, true_and, if_true]
  rfl

/-- Carries out a function as it is read: it checks the input and builds the record from the arguments. -/
def Function.perform (exports : Source.Exports) (p : Program) (c : Circumstances) (input : InputClass)
    (values : List (String × Value)) (f : Function) : Except CallFault (List (String × Value)) := do
  p.relyOn exports "dataclass" .recordMark
  p.relyOn exports "validate_struct" .validate
  p.relyOn exports "StructValidationError" .invalid
  p.relyOn exports "ConversionError" .failed
  (Conversion.validated f.inputName input values).mapError .conversion
  match p.lookup exports f.recordName with
  | some (.record _) => f.arguments.mapM fun (name, e) => do return (name, ← p.eval exports c f.inputName values e)
  | _ => .error (.foreign f.recordName)

theorem run_eq_perform {p : Program} {r : Routine} (hnodup : p.definedNames.Nodup) (hr : r ∈ p.routines)
    (exports : Source.Exports) (c : Circumstances) (input : InputClass) (values : List (String × Value)) :
    p.run exports c input values r = (functionOf r).perform exports p c input values := by
  have hrecord : p.lookup exports r.record.name = some (.record r.record) := lookup_record hnodup hr
  rw [Program.run, Function.perform]
  simp only [functionOf, hrecord, if_true, List.mapM_map]
  rfl

theorem not_mem_of_isName {name : String} {c : Char} (h : Text.isName name = true) (hc : Text.isNameRest c = false) :
    c ∉ name.toList := by
  intro hmem
  rw [isNameRest_of_mem h hmem] at hc
  cases hc

theorem legible_sourceValue {f : Domain.Field} (h : Text.isName f.source = true) : Legible (sourceValue f) := by
  have hbracket := not_mem_of_isName h (by decide : Text.isNameRest '(' = false)
  have hpoint := not_mem_of_isName h (by decide : Text.isNameRest '.' = false)
  unfold sourceValue
  split
  · exact hpoint
  · split
    · exact hpoint
    · exact hbracket

theorem wrapperName_ne_transform (name scope : String) : Naming.wrapperName name scope ≠ "transform_field" := by
  intro h
  have hmem : 'V' ∈ (Naming.wrapperName name scope).toList := by
    rw [toList_wrapperName]
    simp
  rw [h] at hmem
  simp at hmem

theorem legible_fieldOf {f : Domain.Field} {scope : String} (hsource : Text.isName f.source = true)
    (hname : Text.isName f.name = true) (hscope : scope = "" ∨ Text.isName scope = true) (variant : Variant) :
    Legible (fieldOf f scope variant).value := by
  cases variant with
  | direct => exact legible_sourceValue hsource
  | newtype =>
      refine ⟨fun hmem => ?_, wrapperName_ne_transform _ _, legible_sourceValue hsource⟩
      have hrest := isNameRest_wrapperName hname hscope hmem
      cases hrest

section

variable {v : Value} {file : Option String} {s : Settings} {g : Registry} {decls : List Declaration.Record}
  {m : Declaration.Module} {variant : Variant} {p : Program} {r : Routine}

theorem legible_routine (hsettings : Settings.parse v file = .ok s) (hregistry : s.registry = .ok g)
    (hdecls : ∀ d ∈ decls, Declared d) (hp : program m (decls.map (Domain.resolve g s.conventions)) variant = .ok p)
    (hr : r ∈ p.routines) : LegibleRoutine r := by
  have hrecord : r.record ∈ decls.map (Domain.resolve g s.conventions) := by
    rw [← routines_map_record hp]
    exact List.mem_map_of_mem hr
  obtain ⟨d, hd, hresolve⟩ := List.mem_map.1 hrecord
  obtain ⟨hclass, hpublic⟩ := hdecls d hd
  have hfields := fields_of_routine hp hr
  have hnames : ∀ f ∈ r.record.fields, Text.isName f.name = true ∧ Text.isName f.source = true := by
    intro f hf
    rw [← hresolve] at hf
    refine ⟨((namesFields_of_parse hsettings).resolve hregistry (fun e he => .inl (hpublic e he)) hf).isName, ?_⟩
    rw [fields_resolve] at hf
    obtain ⟨e, he, rfl⟩ := List.mem_map.1 hf
    rw [source_keptField]
    exact (hpublic e (List.mem_of_mem_filter he)).1
  constructor
  · rw [← hresolve]
    exact not_mem_of_isName hclass (by decide)
  · intro f hf
    rw [hfields] at hf
    obtain ⟨e, he, rfl⟩ := List.mem_map.1 hf
    cases variant <;> exact not_mem_of_isName (hnames e he).1 (by decide)
  · intro f hf
    rw [hfields] at hf
    obtain ⟨e, he, rfl⟩ := List.mem_map.1 hf
    refine legible_fieldOf (hnames e he).2 (hnames e he).1 ?_ variant
    rw [← hresolve]
    exact scopeOf_resolve hclass _ e

/-- The lines that are printed for a record and the routine that stands for them in the program are one function: read
back, the lines do what the routine does. -/
theorem printed_function_runs (hsettings : Settings.parse v file = .ok s) (hregistry : s.registry = .ok g)
    (hdecls : ∀ d ∈ decls, Declared d) (hp : program m (decls.map (Domain.resolve g s.conventions)) variant = .ok p)
    (hnodup : p.definedNames.Nodup) (hr : r ∈ p.routines) :
    r.text = unlines (classLines r.record r.fields ++ functionLines r.record r.fields) ∧
      ∃ f, Function.ofLines? (functionLines r.record r.fields) = some f ∧ f.name = r.name ∧
        ∀ exports c input values, p.run exports c input values r = f.perform exports p c input values :=
  ⟨rfl, functionOf r, ofLines?_functionLines (legible_routine hsettings hregistry hdecls hp hr), rfl,
    run_eq_perform hnodup hr⟩

end

end Vetted.Proofs.PrintedFunction
