/-! The tokens of YAML. The layout of a text in lines is told by tokens of its own: a
block collection starts with one and ends with one. -/
namespace MapTheme.Yaml

inductive Token where
  | versionDirective
  | tagDirective (handle tagPrefix : List Char)
  | startDocument
  | endDocument
  | endText
  | blockSequence
  | blockMapping
  | blockEnd
  | openSequence
  | closeSequence
  | openMapping
  | closeMapping
  | entry
  | separator
  | key
  | value
  | alias (name : List Char)
  | anchor (name : List Char)
  | tag (handle suffix : List Char)
  | scalar (plain : Bool) (text : List Char)
deriving Repr, DecidableEq

end MapTheme.Yaml
