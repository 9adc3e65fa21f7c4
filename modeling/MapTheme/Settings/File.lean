import MapTheme.Files
import MapTheme.PathName
import MapTheme.Settings.Format

/-! Settings files. The extension of a file tells its format; where a path names no
file, one that it names with the extension of a format is taken. -/
namespace MapTheme

/-- The paths that stand in for one that names no file. -/
def SettingsFormat.pathsFor (path : String) : List (String × SettingsFormat) :=
  extensions.filterMap fun (extension, format) =>
    (PathName.addExtension? path extension).map fun path => (path, format)

def Files.settingsFile? (f : Files) (path : String) : Option (SettingsFormat × List UInt8) :=
  match f.read? path with
  | some content => do
    some (← SettingsFormat.extensions.lookup (← PathName.extension? path), content)
  | none => (SettingsFormat.pathsFor path).findSome? fun (path, format) =>
      (f.read? path).map fun content => (format, content)

def Settings.load? (f : Files) (path : String) : Option Settings := do
  let (format, content) ← f.settingsFile? path
  Settings.ofBytes? format content

end MapTheme
