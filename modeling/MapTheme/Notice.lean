import MapTheme.Tally
import MapTheme.Text.Quoted

/-! What is worth telling while a theme is compiled and a run goes on, with its
wording and how urgent it is. -/
namespace MapTheme

inductive Level where
  | warning
  | info
  | debug
deriving Repr, DecidableEq

inductive Notice where
  | unknownFilterKey (key : String)
  | layerNotFound (id : String)
  | cyclicLayer (id : String)
  | categoriesEnabled (count : Nat)
  | ignoredInTheme (name : String)
  | ignoredInRule (name : String)
  | disabledCategory (category : String)
  | invalidAttribute (name value element : String)
  | patternNotFound (source : String)
  | symbolNotFound (source : String)
  | unknownLabelKey (element key : String)
  | outsideDirectory (source : String)
  | loaded (tally : Tally)
  | omitted (tally : Tally)
  | featuresRead (features keys : Nat)
  | noInstructions (theme : String)
  | tallied (tally : Tally)
  | toStandardOutput
  | toFile (path : String)
deriving Repr, DecidableEq

namespace Notice

def level : Notice → Level
  | .layerNotFound _ | .cyclicLayer _ | .invalidAttribute .. | .patternNotFound _
  | .symbolNotFound _ | .outsideDirectory _ | .noInstructions _ => .warning
  | .loaded _ | .omitted _ | .featuresRead .. | .toStandardOutput | .toFile _ => .info
  | .unknownFilterKey _ | .categoriesEnabled _ | .ignoredInTheme _ | .ignoredInRule _
  | .disabledCategory _ | .unknownLabelKey .. | .tallied _ => .debug

def apostrophes (text : String) : String := "'" ++ text ++ "'"

def tag (name : String) : String := "<" ++ name ++ ">"

def message : Notice → String
  | .unknownFilterKey key => "Filter: key " ++ apostrophes key ++ " not present in map data"
  | .layerNotFound id => "Style: menu layer " ++ apostrophes id ++ " not found"
  | .cyclicLayer id => "Style: menu layer " ++ apostrophes id ++ " has a cyclic parent chain"
  | .categoriesEnabled count => "Style: " ++ toString count ++ " categories enabled by menu"
  | .ignoredInTheme name => "Style: ignoring " ++ tag name ++ " in <rendertheme>"
  | .ignoredInRule name => "Style: ignoring " ++ tag name ++ " in <rule>"
  | .disabledCategory category =>
    "Style: skipping rule of disabled category " ++ apostrophes category
  | .invalidAttribute name value element =>
    "Style: ignoring invalid " ++ name ++ "=\"" ++ value ++ "\" on " ++ tag element
  | .patternNotFound source =>
    "Style: area pattern " ++ apostrophes source ++ " not found, using fill color"
  | .symbolNotFound source => "Style: symbol " ++ apostrophes source ++ " not found, skipping"
  | .unknownLabelKey element key =>
    "Style: skipping " ++ tag element ++ " with key " ++ apostrophes key ++ " unknown to map data"
  | .outsideDirectory source =>
    "Resources: " ++ apostrophes source ++ " points outside the theme directory"
  | .loaded t =>
    "Style: loaded " ++ toString t.paths ++ " paths, " ++ toString t.circles ++ " circles, " ++
      toString t.pathLabels ++ " path labels, " ++ toString t.pointLabels ++ " point labels, " ++
      toString t.areaLabels ++ " area labels, " ++ toString t.symbols ++ " symbols"
  | .omitted t =>
    "Style: " ++ toString t.prunedRules ++ " rules pruned by menu, " ++
      toString t.missingImages ++ " missing resources"
  | .featuresRead features keys =>
    "Features: " ++ toString features ++ " read, " ++ toString keys ++ " distinct keys"
  | .noInstructions theme =>
    "Style: theme " ++ Text.quoted theme ++ " produced no instructions"
  | .tallied t => "Style: " ++ t.text
  | .toStandardOutput => "Sink: stdout"
  | .toFile path => "Sink: " ++ Text.quoted path

end Notice
end MapTheme
