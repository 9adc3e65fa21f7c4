import MapTheme.Run

/-! The program. It gathers the files that a run may ask for, carries the run out on
them, and hands out what has come of it. -/
namespace MapTheme.Program

/-- What opens but cannot be read is a folder. -/
def entryOf (content : IO.FS.Handle → IO (List UInt8)) (path : String) : IO (Option Entry) := do
  let opened : Option IO.FS.Handle ←
    try pure (some (← IO.FS.Handle.mk path .read))
    catch _ => pure none
  match opened with
  | none => return none
  | some handle =>
    try return some (.file (← content handle))
    catch _ => return some .folder

def wholeContent (handle : IO.FS.Handle) : IO (List UInt8) := do
  return (← handle.readBinToEnd).toList

/-- Reads a byte, and leaves out what it is. -/
def noContent (handle : IO.FS.Handle) : IO (List UInt8) := do
  let _ ← handle.read 1
  return []

/-- Adds what is at a path, with the folders on the way. -/
def gather (content : IO.FS.Handle → IO (List UInt8)) (f : Files) (path : String) : IO Files := do
  let f := (Files.stops path).dropLast.foldl Files.addFolder f
  match (Files.stops path).getLast?, ← entryOf content path with
  | some place, some (.file content) => return f.addFile place content
  | some place, some .folder => return f.addFolder place
  | _, _ => return f

def sources (bytes : List UInt8) : List String :=
  match (Text.decode? bytes).map Markup.parse with
  | some (.ok root) => (root.preorder 0).flatMap fun (_, _, attributes) =>
      (attributes.lookup "src").toList
  | _ => []

def inputs (c : CommandLine) : List String :=
  [c.theme] ++ (if PathName.isStream c.features then [] else [c.features]) ++
    c.config.toList ++
    (c.config.toList.flatMap fun path => (SettingsFormat.pathsFor path).map Prod.fst)

def surroundings (c : CommandLine) : IO Surroundings := do
  let known ← (inputs c).foldlM (gather wholeContent) Files.empty
  let images := (sources ((known.read? c.theme).getD [])).filter fun source =>
    Images.relative source ≠ [] && !Images.climbs (Images.relative source)
  let directory := PathName.parent c.theme
  let known ← (images.map fun source => Images.below directory (Images.relative source)).foldlM
    (gather noContent) known
  let parent := PathName.parent c.output
  let files ← if parent = "" then pure known else gather noContent known parent
  let input ← if PathName.isStream c.features then
      pure (← (← IO.getStdin).readBinToEnd).toList
    else pure []
  return { files, input }

def levelName : Level → String
  | .warning => "WARN"
  | .info => "INFO"
  | .debug => "DEBUG"

def isShown (verbose : Bool) (level : Level) : Bool :=
  match level with
  | .warning => true
  | .info => verbose
  | .debug => false

def store (c : CommandLine) (o : Outcome) : IO (Except RunError Nat) := do
  match o.result, PathName.isStream c.output, o.files.read? c.output with
  | .ok count, false, some content =>
    try
      IO.FS.writeBinFile c.output content.toByteArray
      return .ok count
    catch _ => return .error (.createOutput c.output)
  | result, _, _ => return result

def usageText : String :=
  "Usage: rendertheme [OPTIONS] --theme <THEME> --features <FEATURES> --zoom <ZOOM>"

def optionTexts : List String :=
  ["  -t, --theme <THEME>        Render theme (XML)",
   "  -c, --config <CONFIG>      Style configuration file (YAML, TOML or JSON)",
   "  -f, --features <FEATURES>  Feature descriptors, one JSON object per line (\"-\" for stdin)",
   "  -z, --zoom <ZOOM>          Zoom level to evaluate at",
   "  -o, --output <OUTPUT>      Output file (\"-\" for stdout) [default: -]",
   "      --ratio <RATIO>        Display density ratio (overrides the configuration)",
   "      --layer <LAYER>        Style menu layer (overrides the configuration)",
   "      --threads <THREADS>    Number of threads (default: all cores)",
   "  -v, --verbose              Enable verbose output",
   "  -h, --help                 Print help",
   "  -V, --version              Print version"]

def usageMessage : UsageError → String
  | .missingOption => "the required options were not provided"
  | .unknownArgument => "unexpected argument found"
  | .missingValue => "a value is required for an option but none was supplied"
  | .invalidValue => "invalid value for an option"
  | .repeatedOption => "an option cannot be used multiple times"
  | .needlessValue => "unexpected value for an option that takes none"
  | .help => "help"
  | .version => "version"

def refuse : UsageError → IO UInt32
  | .help => do
    IO.println usageText
    IO.println "\nOptions:"
    optionTexts.forM IO.println
    return 0
  | .version => do
    IO.println "rendertheme 0.1.0"
    return 0
  | e => do
    IO.eprintln ("error: " ++ usageMessage e ++ "\n\n" ++ usageText)
    return 2

def perform (c : CommandLine) : IO UInt32 := do
  let o := c.run (← surroundings c)
  for notice in o.notices do
    if isShown c.verbose notice.level then
      IO.eprintln (levelName notice.level ++ " " ++ notice.message)
  let result ← store c o
  o.printed.forM IO.println
  match result with
  | .ok count =>
    if c.verbose then
      IO.eprintln ("INFO Done! Styled " ++ toString count ++ " features at zoom " ++
        toString c.zoom)
    return 0
  | .error e =>
    IO.eprintln ("Error: " ++ e.message)
    if let .loadTheme _ cause := e then
      IO.eprintln ("\nCaused by:\n    " ++ cause.message)
    return 1

end MapTheme.Program

def main (arguments : List String) : IO UInt32 :=
  match MapTheme.CommandLine.parse arguments with
  | .ok c => MapTheme.Program.perform c
  | .error e => MapTheme.Program.refuse e
