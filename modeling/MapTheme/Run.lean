import MapTheme.CommandLine
import MapTheme.Report
import MapTheme.Settings.File

/-! A run: settings, features and theme are read, in this order, and only then the
output is made, which holds one line for each feature. Whatever goes wrong before that
leaves every file as it was. -/
namespace MapTheme

inductive RunError where
  | settings (path : String)
  | openFeatures (path : String)
  | readFeatures
  | invalidFeature (line : Nat)
  | readTheme (path : String)
  | loadTheme (path : String) (cause : LoadError)
  | createOutput (path : String)
deriving Repr, DecidableEq

def RunError.message : RunError → String
  | .settings path => "CLI: Failed to load configuration " ++ Text.quoted path
  | .openFeatures path => "CLI: Failed to open features " ++ Text.quoted path
  | .readFeatures => "CLI: Failed to read features"
  | .invalidFeature line => "CLI: Invalid feature on line " ++ toString line
  | .readTheme path => "CLI: Failed to read theme " ++ Text.quoted path
  | .loadTheme path _ => "Style: Failed to load theme " ++ Text.quoted path
  | .createOutput path => "CLI: Failed to create output " ++ Text.quoted path

def RunError.ofFeatures : FeatureError → RunError
  | .undecodable => .readFeatures
  | .invalid line => .invalidFeature line

/-- What a run finds: files, and what comes in on standard input. -/
structure Surroundings where
  files : Files
  input : List UInt8 := []

/-- What a run leaves behind: files, lines on standard output, what there is to tell,
and the number of features. -/
structure Outcome where
  files : Files
  printed : List String := []
  notices : List Notice := []
  result : Except RunError Nat

namespace CommandLine

/-- Options of the command line override a settings file. -/
def settings (c : CommandLine) (f : Files) : Except RunError Settings :=
  let base : Except RunError Settings := match c.config with
    | none => .ok {}
    | some path =>
      match Settings.load? f path with
      | some settings => .ok settings
      | none => .error (.settings path)
  base.map fun s =>
    { s with
      ratio := c.ratio.getD s.ratio
      selection := { s.selection with layer := c.layer <|> s.selection.layer } }

/-- The bytes that describe the features. A folder can be opened, but not read. -/
def featureBytes (c : CommandLine) (s : Surroundings) : Except RunError (List UInt8) :=
  if PathName.isStream c.features then .ok s.input
  else match (s.files.locate? c.features).bind s.files.entry? with
    | some (.file content) => .ok content
    | some .folder => .error .readFeatures
    | none => .error (.openFeatures c.features)

def descriptors (c : CommandLine) (s : Surroundings) : Except RunError (List Descriptor) :=
  (c.featureBytes s).bind fun bytes =>
    (readFeatures Descriptor.ofText? bytes).mapError RunError.ofFeatures

def themeText (c : CommandLine) (f : Files) : Except RunError String :=
  match (f.read? c.theme).bind Text.decode? with
  | some text => .ok text
  | none => .error (.readTheme c.theme)

/-- Images are looked for below the directory of the theme. -/
def loadStyle (c : CommandLine) (f : Files) (keys : KeyTable) (settings : Settings) :
    Except RunError Loaded :=
  (c.themeText f).bind fun text =>
    let images := .ofDirectory (PathName.parent c.theme) f.isFile
    (({} : Style).loadText keys images settings text).mapError (.loadTheme c.theme)

def styleNotices (c : CommandLine) (l : Loaded) : List Notice :=
  l.notices ++ (if l.style.isEmpty then [.noInstructions c.theme] else []) ++ [.tallied l.tally]

def lines (c : CommandLine) (style : Style) (features : List Feature) : List String :=
  features.map fun feature => (Report.ofFeature style c.zoom feature).line

def bytesOf (lines : List String) : List UInt8 :=
  lines.flatMap fun line => line.toUTF8.toList ++ [Text.lineFeed]

def deliver (c : CommandLine) (f : Files) (notices : List Notice) (lines : List String) : Outcome :=
  if PathName.isStream c.output then
    { files := f, printed := lines, notices := notices ++ [.toStandardOutput]
      result := .ok lines.length }
  else
    let notices := notices ++ [.toFile c.output]
    match f.write? c.output (bytesOf lines) with
    | some files => { files, notices, result := .ok lines.length }
    | none => { files := f, notices, result := .error (.createOutput c.output) }

/-- All that a run does before its output, and the notices up to there. -/
def prepare (c : CommandLine) (s : Surroundings) : List Notice × Except RunError (List String) :=
  match c.settings s.files with
  | .error e => ([], .error e)
  | .ok settings =>
    match c.descriptors s with
    | .error e => ([], .error e)
    | .ok descriptors =>
      let (keys, features) := internFeatures {} descriptors
      let read := Notice.featuresRead features.length keys.size
      match c.loadStyle s.files keys settings with
      | .error e => ([read], .error e)
      | .ok loaded => (read :: c.styleNotices loaded, .ok (c.lines loaded.style features))

def run (c : CommandLine) (s : Surroundings) : Outcome :=
  match c.prepare s with
  | (notices, .error e) => { files := s.files, notices, result := .error e }
  | (notices, .ok lines) => c.deliver s.files notices lines

end CommandLine
end MapTheme
