import MapTheme.Text.Split

/-! The texts of paths: names with slashes between them. Empty names and single dots
after the first name say nothing. -/
namespace MapTheme.PathName

/-- A name that leads nowhere. -/
def isIdle (name : List Char) : Bool := name = [] || name = ['.']

def dropIdle (names : List (List Char)) : List (List Char) :=
  (names.reverse.dropWhile isIdle).reverse

/-- The names of a path, less the idle ones at its end; the first name is kept. -/
def names (path : List Char) : List (List Char) :=
  match Text.split '/' path with
  | [] => []
  | first :: rest => first :: dropIdle rest

def ofNames : List (List Char) → String
  | [[]] => "/"
  | names => String.ofList (Text.join '/' names)

/-- The directory of what a path names: the path without its last name. For a single
name that is the empty path, for the top directory and the empty path a dot. -/
def parent (path : String) : String :=
  match names path.toList with
  | [] | [[]] => "."
  | [_] => ""
  | first :: rest => ofNames (first :: dropIdle rest.dropLast)

/-- The name at the end of a path, if it names more than a place on the way. -/
def last? (path : String) : Option (List Char) :=
  (names path.toList).getLast?.filter fun name => !isIdle name && name ≠ ['.', '.']

/-- What follows the last dot of a name that does not start with its only one. -/
def extension? (path : String) : Option String :=
  (last? path).bind fun name =>
    let stem := (name.reverse.dropWhile (· ≠ '.')).drop 1
    if stem = [] then none
    else some (String.ofList (name.reverse.takeWhile (· ≠ '.')).reverse)

/-- The hidden name that stands for the files of a folder. -/
def hiddenName : String := ".dummy"

/-- A path with one more extension. A first one follows the last name, wherever the
path goes on to from there. A further one is added to the path as it stands, where a
slash at its end is followed by a hidden name. -/
def addExtension? (path : String) (extension : String) : Option String :=
  (last? path).map fun _ =>
    match extension? path with
    | none => ofNames (names path.toList) ++ "." ++ extension
    | some _ =>
      (if path.toList.getLast? = some '/' then path ++ hiddenName else path) ++ "." ++ extension

/-- A dash alone stands for the standard stream. -/
def isStream (path : String) : Bool := names path.toList = [['-']]

end MapTheme.PathName
