import MapTheme.Text.Split

/-! A tree of folders and files. A path is followed from left to right, and whatever
it goes on from must be a folder. Writing to a path changes what is at its end and
nothing else: `read?_write` and `entry?_write`. -/
namespace MapTheme

/-- The names that lead to an entry. The first one is a slash for a path from the
root; the others start at the folder that the program runs in. -/
abbrev Location := List String

inductive Entry where
  | folder
  | file (content : List UInt8)
deriving Repr, DecidableEq

structure Files where
  entry? : Location → Option Entry

namespace Files

def empty : Files := ⟨fun place => if place = [] ∨ place = ["/"] then some .folder else none⟩

def addFolder (f : Files) (folder : Location) : Files :=
  ⟨fun place => if place.isPrefixOf folder then some .folder else f.entry? place⟩

def addFile (f : Files) (file : Location) (content : List UInt8) : Files :=
  ⟨fun place =>
    if place = file then some (.file content)
    else if place.isPrefixOf file then some .folder
    else f.entry? place⟩

def isFolder (f : Files) (place : Location) : Bool := f.entry? place = some .folder

/-- The folder that holds a place. Above the root there is only the root. -/
def above (place : Location) : Location :=
  if place = ["/"] then place
  else if place = [] ∨ place.getLast? = some ".." then place ++ [".."]
  else place.dropLast

/-- A name of a file has at most 255 bytes, none of them zero. -/
def isName (name : List Char) : Bool :=
  (String.ofList name).utf8ByteSize ≤ 255 && !name.contains '\x00'

/-- One name further. An empty name and a single dot lead nowhere. -/
def step (place : Location) (name : List Char) : Location :=
  if name = [] ∨ name = ['.'] then place
  else if name = ['.', '.'] then above place
  else place ++ [String.ofList name]

def walk (f : Files) (place : Location) : List (List Char) → Option Location
  | [] => some place
  | name :: names =>
    if f.isFolder place && isName name then f.walk (step place name) names else none

def route (path : String) : Location × List (List Char) :=
  match Text.split '/' path.toList with
  | [] :: names => (["/"], names)
  | names => ([], names)

/-- A path has at most 4095 bytes, and one at least. -/
def isPath (path : String) : Bool := path ≠ "" && path.utf8ByteSize ≤ 4095

/-- The place at the end of a path. Only that place itself may be missing. -/
def locate? (f : Files) (path : String) : Option Location :=
  if isPath path then f.walk (route path).1 (route path).2 else none

/-- The places along a path, its end last. -/
def stops (path : String) : List Location :=
  let (start, names) := route path
  (names.foldl (fun (place, seen) name => (step place name, seen ++ [step place name]))
    (start, [start])).2

def contentAt? (f : Files) (place : Location) : Option (List UInt8) :=
  match f.entry? place with
  | some (.file content) => some content
  | _ => none

def read? (f : Files) (path : String) : Option (List UInt8) := (f.locate? path).bind f.contentAt?

def isFile (f : Files) (path : String) : Bool := (f.read? path).isSome

def put (f : Files) (file : Location) (content : List UInt8) : Files :=
  ⟨fun place => if place = file then some (.file content) else f.entry? place⟩

def write? (f : Files) (path : String) (content : List UInt8) : Option Files :=
  (f.locate? path).bind fun place => if f.isFolder place then none else some (f.put place content)

theorem isFolder_put {f : Files} {file : Location} (content : List UInt8)
    (free : f.isFolder file = false) (place : Location) :
    (f.put file content).isFolder place = f.isFolder place := by
  by_cases same : place = file
  · subst same
    rw [free]
    simp [isFolder, put]
  · simp [isFolder, put, same]

theorem walk_put {f : Files} {file : Location} (content : List UInt8)
    (free : f.isFolder file = false) (place : Location) (names : List (List Char)) :
    (f.put file content).walk place names = f.walk place names := by
  induction names generalizing place with
  | nil => rfl
  | cons name names ih => simp only [walk, isFolder_put content free, ih]

theorem locate?_put {f : Files} {file : Location} (content : List UInt8)
    (free : f.isFolder file = false) (path : String) :
    (f.put file content).locate? path = f.locate? path := by
  simp only [locate?, walk_put content free]

theorem write?_eq_some {f g : Files} {path : String} {content : List UInt8}
    (h : f.write? path content = some g) :
    ∃ place, f.locate? path = some place ∧ f.isFolder place = false ∧ g = f.put place content := by
  obtain ⟨place, found, h⟩ := Option.bind_eq_some_iff.mp h
  split at h
  · contradiction
  · next free => exact ⟨place, found, by simpa using free, (Option.some.inj h).symm⟩

theorem read?_write {f g : Files} {path : String} {content : List UInt8}
    (h : f.write? path content = some g) : g.read? path = some content := by
  obtain ⟨place, found, free, rfl⟩ := write?_eq_some h
  rw [read?, locate?_put content free, found]
  simp [contentAt?, put]

theorem entry?_write {f g : Files} {path : String} {content : List UInt8}
    (h : f.write? path content = some g) {place : Location} (other : f.locate? path ≠ some place) :
    g.entry? place = f.entry? place := by
  obtain ⟨file, found, _, rfl⟩ := write?_eq_some h
  have ne : place ≠ file := fun same => other (same ▸ found)
  simp [put, ne]

end Files
end MapTheme
