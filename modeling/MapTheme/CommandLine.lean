import MapTheme.Decimal.Nearest

/-! The command line: its options, and how arguments are taken for them. An option
written apart from its value takes the next argument, unless that looks like an
option too; the value is read when the next option or the end has been reached. -/
namespace MapTheme

structure CommandLine where
  theme : String
  config : Option String := none
  features : String
  zoom : Nat
  output : String := "-"
  ratio : Option Float := none
  layer : Option String := none
  threads : Option Nat := none
  verbose : Bool := false

/-- Why arguments are no command line. Asking for help or the version is among the
reasons. -/
inductive UsageError where
  | missingOption
  | unknownArgument
  | missingValue
  | invalidValue
  | repeatedOption
  | needlessValue
  | help
  | version
deriving Repr, DecidableEq

namespace CommandLine

/-- Options with a value. -/
inductive Setting where
  | theme
  | config
  | features
  | zoom
  | output
  | ratio
  | layer
  | threads
deriving Repr, DecidableEq

/-- Options without a value. -/
inductive Mark where
  | verbose
  | help
  | version
deriving Repr, DecidableEq

inductive Word where
  | setting (setting : Setting)
  | mark (mark : Mark)
deriving Repr, DecidableEq

def longNames : List (String × Word) :=
  [("theme", .setting .theme), ("config", .setting .config), ("features", .setting .features),
   ("zoom", .setting .zoom), ("output", .setting .output), ("ratio", .setting .ratio),
   ("layer", .setting .layer), ("threads", .setting .threads), ("verbose", .mark .verbose),
   ("help", .mark .help), ("version", .mark .version)]

def shortNames : List (Char × Word) :=
  [('t', .setting .theme), ('c', .setting .config), ('f', .setting .features),
   ('z', .setting .zoom), ('o', .setting .output), ('v', .mark .verbose), ('h', .mark .help),
   ('V', .mark .version)]

structure Given where
  theme : Option String := none
  config : Option String := none
  features : Option String := none
  zoom : Option Nat := none
  output : Option String := none
  ratio : Option Float := none
  layer : Option String := none
  threads : Option Nat := none
  verbose : Bool := false

/-- A path is not empty. -/
def path (text : String) : Except UsageError String :=
  if text = "" then .error .missingValue else .ok text

def valid {α : Type} (value : Option α) : Except UsageError α :=
  match value with
  | some a => .ok a
  | none => .error .invalidValue

def zoomLevel (text : String) : Except UsageError Nat :=
  valid (((Decimal.readInt? 0x8000000000000000 text.toList).filter fun n =>
    0 ≤ n && n ≤ 255).map Int.toNat)

def once {α : Type} (before : Option α) (value : Except UsageError α) :
    Except UsageError (Option α) :=
  if before.isSome then .error .repeatedOption else value.map some

namespace Given

def put (g : Given) (setting : Setting) (text : String) : Except UsageError Given :=
  match setting with
  | .theme => (once g.theme (path text)).map fun theme => { g with theme }
  | .config => (once g.config (path text)).map fun config => { g with config }
  | .features => (once g.features (path text)).map fun features => { g with features }
  | .zoom => (once g.zoom (zoomLevel text)).map fun zoom => { g with zoom }
  | .output => (once g.output (path text)).map fun output => { g with output }
  | .ratio =>
    (once g.ratio (valid (Decimal.readFloat? text.toList))).map fun ratio => { g with ratio }
  | .layer => (once g.layer (.ok text)).map fun layer => { g with layer }
  | .threads =>
    (once g.threads (valid (Decimal.readNat? 0x10000000000000000 text.toList))).map
      fun threads => { g with threads }

def mark (g : Given) : Mark → Except UsageError Given
  | .verbose => if g.verbose then .error .repeatedOption else .ok { g with verbose := true }
  | .help => .error .help
  | .version => .error .version

def commandLine (g : Given) : Except UsageError CommandLine :=
  match g.theme, g.features, g.zoom with
  | some theme, some features, some zoom =>
    .ok
      { theme, features, zoom
        config := g.config
        output := g.output.getD "-"
        ratio := g.ratio
        layer := g.layer
        threads := g.threads
        verbose := g.verbose }
  | _, _, _ => .error .missingOption

end Given

/-- An option that waits, with its value once that has been seen. -/
abbrev Pending := Option (Setting × Option String)

def settle (g : Given) : Pending → Except UsageError Given
  | none => .ok g
  | some (_, none) => .error .missingValue
  | some (setting, some text) => g.put setting text

structure Progress where
  given : Given := {}
  pending : Pending := none

namespace Progress

def expect (p : Progress) (setting : Setting) : Except UsageError Progress :=
  (settle p.given p.pending).map fun given => ⟨given, some (setting, none)⟩

def attach (p : Progress) (setting : Setting) (text : String) : Except UsageError Progress :=
  ((settle p.given p.pending).bind fun given => given.put setting text).map fun given =>
    ⟨given, none⟩

def mark (p : Progress) (mark : Mark) : Except UsageError Progress :=
  ((settle p.given p.pending).bind fun given => given.mark mark).map fun given => ⟨given, none⟩

end Progress

/-- An argument that starts with two dashes, without these. -/
def longOption (p : Progress) (cs : List Char) : Except UsageError Progress :=
  let name := cs.takeWhile (· ≠ '=')
  match longNames.lookup (String.ofList name), cs.drop name.length with
  | none, _ => .error .unknownArgument
  | some (.setting setting), [] => p.expect setting
  | some (.setting setting), _ :: value => p.attach setting (String.ofList value)
  | some (.mark mark), [] => p.mark mark
  | some (.mark _), _ => .error .needlessValue

/-- An argument that starts with one dash, without it. What follows the letter of an
option with a value is that value. -/
def shortOptions (p : Progress) : List Char → Except UsageError Progress
  | [] => .ok p
  | c :: cs =>
    match shortNames.lookup c, cs with
    | none, _ => .error .unknownArgument
    | some (.mark mark), cs => (p.mark mark).bind fun p => shortOptions p cs
    | some (.setting setting), [] => p.expect setting
    | some (.setting setting), '=' :: value => p.attach setting (String.ofList value)
    | some (.setting setting), value => p.attach setting (String.ofList value)

def plain (p : Progress) (text : String) : Except UsageError Progress :=
  match p.pending with
  | some (setting, none) => .ok { p with pending := some (setting, some text) }
  | _ => .error .unknownArgument

def take (p : Progress) (argument : String) : Except UsageError Progress :=
  match argument.toList with
  | '-' :: '-' :: cs => longOption p cs
  | '-' :: c :: cs => shortOptions p (c :: cs)
  | _ => plain p argument

/-- After two dashes alone nothing may follow. -/
def takeAll (p : Progress) : List String → Except UsageError Progress
  | [] => .ok p
  | ["--"] => .ok p
  | "--" :: _ :: _ => .error .unknownArgument
  | argument :: arguments => (take p argument).bind fun p => takeAll p arguments

def parse (arguments : List String) : Except UsageError CommandLine := do
  let p ← takeAll {} arguments
  let given ← settle p.given p.pending
  given.commandLine

end CommandLine
end MapTheme
