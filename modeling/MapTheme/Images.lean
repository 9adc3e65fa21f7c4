import MapTheme.Notice
import MapTheme.Text.Split

/-! Where images are looked for. A directory yields only files below it: a source
that would climb out of it by a `..` is not looked for at all. -/
namespace MapTheme

/-- `locate` gives the path of the image that a source names, `refuses` whether the source
is not looked for, since it leads outside. -/
structure Images where
  locate : String → Option String
  refuses : String → Bool := fun _ => false

namespace Images

def notices (images : Images) (source : String) : List Notice :=
  if images.refuses source then [.outsideDirectory source] else []

def none : Images := ⟨fun _ => .none, fun _ => false⟩

def ofNames (names : List String) : Images :=
  ⟨fun source => if source ∈ names then some source else .none, fun _ => false⟩

/-- A source without one leading `file:` and then without leading slashes. -/
def relative (source : String) : List Char :=
  let cs := source.toList
  let scheme := ['f', 'i', 'l', 'e', ':']
  (if scheme.isPrefixOf cs then cs.drop scheme.length else cs).dropWhile (· = '/')

/-- Whether a relative path has a component that leads upwards. -/
def climbs (path : List Char) : Bool := (Text.split '/' path).contains ['.', '.']

def below (directory : String) (path : List Char) : String :=
  if directory = "" || directory.toList.getLast? = some '/' then directory ++ String.ofList path
  else directory ++ "/" ++ String.ofList path

def ofDirectory (directory : String) (isFile : String → Bool) : Images where
  locate source :=
    let path := relative source
    if path = [] || climbs path then .none
    else (some (below directory path)).filter isFile
  refuses source := relative source ≠ [] && climbs (relative source)

end Images
end MapTheme
