namespace Vetted.Yaml

inductive Directive where
  | version (major minor : Nat)
  | handle (name start : String)
  | other
deriving Repr, DecidableEq, Inhabited

inductive Token where
  | directive (d : Directive)
  | documentStart
  | documentEnd
  | blockSequenceStart
  | blockMappingStart
  | blockEnd
  | flowSequenceStart
  | flowSequenceEnd
  | flowMappingStart
  | flowMappingEnd
  | blockEntry
  | flowEntry
  | key
  | value
  | alias (name : String)
  | anchor (name : String)
  | tag (handle : Option String) (suffix : String)
  | scalar (text : String) (plain : Bool)
deriving Repr, DecidableEq, Inhabited

end Vetted.Yaml
