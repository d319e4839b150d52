import Vetted.Command.Option

namespace Vetted.Command

structure Request where
  files : List String := []
  config : Option String := none
  variant : Option String := none
  outputSuffix : Option String := none
  noFormat : Bool := false
  check : Bool := false
  stdout : Bool := false
  verbose : Bool := false
  noColor : Bool := false
deriving Repr, DecidableEq, Inhabited

/-- Why a command line asks for no run. A separator does not count as the value of a flag. -/
inductive Stop where
  | help
  | usage (fault : UsageFault)
  | separatorValue
deriving Repr, DecidableEq, Inhabited

abbrev Setting := Flag × Option String

structure Reading where
  settings : List Setting
  awaits : Option Flag := none

def readAlone (flag : Flag) : Reading :=
  if flag.takesValue then { settings := [], awaits := some flag } else { settings := [(flag, none)] }

def readGlued (flag : Flag) (glued : List Char) : Except UsageFault Reading :=
  if flag.takesValue then .ok { settings := [(flag, some (String.ofList glued))] }
  else
    match glued with
    | [] => .error (.ignoredValue flag "")
    | c :: rest =>
      match Flag.ofName? (String.ofList ['-', c]) with
      | none => .error (.ignoredValue flag (String.ofList glued))
      | some next => do
        let r ← if rest.isEmpty then .ok (readAlone next) else readGlued next rest
        return { r with settings := (flag, none) :: r.settings }

def readHit (h : Hit) : Except UsageFault Reading :=
  match h.value with
  | none => .ok (readAlone h.flag)
  | some value =>
    if Text.startsWith h.name "--" && !h.flag.takesValue then .error (.ignoredValue h.flag value)
    else readGlued h.flag value.toList

def Request.set (r : Request) : Setting → Except Stop Request
  | (.help, _) => .error .help
  | (_, some "--") => .error .separatorValue
  | (.config, value) => .ok { r with config := value }
  | (.variant, value) =>
    let value := value.getD ""
    if Flag.variant.choices.contains value then .ok { r with variant := some value }
    else .error (.usage (.badChoice .variant value))
  | (.outputSuffix, value) => .ok { r with outputSuffix := value }
  | (.noFormat, _) => .ok { r with noFormat := true }
  | (.check, _) => .ok { r with check := true }
  | (.stdout, _) => .ok { r with stdout := true }
  | (.verbose, _) => .ok { r with verbose := true }
  | (.noColor, _) => .ok { r with noColor := true }

/-- How far a command line is read: the request so far, whether files were met, and the words left over. -/
structure Progress where
  request : Request := {}
  filesMet : Bool := false
  left : List String := []

def Word.plain? : Word → Option String
  | .separator => some "--"
  | .plain text => some text
  | _ => none

def Progress.takeFiles (p : Progress) (words : List String) : Progress :=
  if p.filesMet then { p with left := p.left ++ words }
  else { p with request := { p.request with files := words.erase "--" }, filesMet := true }

def readWords (p : Progress) (run : List String) : List Word → Except Stop Progress
  | [] => .ok (if run.isEmpty then p else p.takeFiles run.reverse)
  | w :: rest =>
    match w.plain? with
    | some text => readWords p (text :: run) rest
    | none =>
      let p := if run.isEmpty then p else p.takeFiles run.reverse
      match w with
      | .hit h =>
        match readHit h with
        | .error fault => .error (.usage fault)
        | .ok r =>
          match r.awaits, rest with
          | some flag, .plain value :: rest => do
            let request ← (r.settings ++ [(flag, some value)]).foldlM Request.set p.request
            readWords { p with request } [] rest
          | some flag, _ => .error (.usage (.missingValue flag))
          | none, rest => do
            let request ← r.settings.foldlM Request.set p.request
            readWords { p with request } [] rest
      | .unknown text => readWords { p with left := p.left ++ [text] } [] rest
      | _ => readWords p [] rest

def parse (args : List String) : Except Stop Request := do
  let words ← (wordsOf args).mapError .usage
  let p ← readWords {} [] words
  if p.left.isEmpty then .ok p.request else .error (.usage (.unrecognized p.left))

end Vetted.Command
