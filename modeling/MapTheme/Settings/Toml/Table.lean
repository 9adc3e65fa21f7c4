import MapTheme.Settings.Loose

/-! The tables of TOML while they are being filled. A table is written in one place
only: under its header, by dotted keys in one table, or inline. Headers and dotted keys
may pass through tables that have no header of their own yet. -/
namespace MapTheme.Toml

/-- How a table has come about: on the way of a longer header, by dotted keys, or by a
header of its own. -/
inductive Origin where
  | passed
  | dotted
  | headed
deriving DecidableEq

/-- What a key stands for: a value, a table, or the tables of an array, the latest
first. -/
inductive Node where
  | value (value : Loose)
  | table (origin : Origin) (entries : List (String × Node))
  | tables (elements : List (List (String × Node)))

abbrev Entries := List (String × Node)

def alter (name : String) (change : Option Node → Option Node) : Entries → Option Entries
  | [] => (change none).map fun node => [(name, node)]
  | (key, node) :: rest =>
    if key = name then (change (some node)).map fun node => (key, node) :: rest
    else (alter name change rest).map ((key, node) :: ·)

def within (change : Entries → Option Entries) : List String → Entries → Option Entries
  | [], entries => change entries
  | name :: path, entries =>
    alter name (fun
      | none => (within change path []).map (.table .passed)
      | some (.table origin inner) => (within change path inner).map (.table origin)
      | some (.tables (latest :: earlier)) =>
        (within change path latest).map fun latest => .tables (latest :: earlier)
      | _ => none) entries

/-- Gives a dotted key a value. Its last part goes into a table without a header of
its own; on the way there it may pass through the latest table of an array. -/
def assign (value : Node) : List String → Entries → Option Entries
  | [], _ => none
  | [name], entries => alter name (fun node => if node.isSome then none else some value) entries
  | name :: path, entries =>
    alter name (fun
      | none => (assign value path []).map (.table .dotted)
      | some (.table .headed _) => none
      | some (.table origin inner) => (assign value path inner).map (.table origin)
      | some (.tables (latest :: earlier)) =>
        if path.length = 1 then none
        else (assign value path latest).map fun latest => .tables (latest :: earlier)
      | _ => none) entries

def openTable (path : List String) (entries : Entries) : Option Entries :=
  match path.getLast? with
  | none => none
  | some name =>
    within (alter name fun
      | none => some (.table .headed [])
      | some (.table .passed inner) => some (.table .headed inner)
      | _ => none) path.dropLast entries

def openElement (path : List String) (entries : Entries) : Option Entries :=
  match path.getLast? with
  | none => none
  | some name =>
    within (alter name fun
      | none => some (.tables [[]])
      | some (.tables elements) => some (.tables ([] :: elements))
      | _ => none) path.dropLast entries

mutual
def Node.loose : Node → Loose
  | .value value => value
  | .table _ entries => .table (looseEntries entries)
  | .tables elements => .list (looseTables elements).reverse

def looseEntries : List (String × Node) → List (String × Loose)
  | [] => []
  | (name, node) :: rest => (name, node.loose) :: looseEntries rest

def looseTables : List (List (String × Node)) → List Loose
  | [] => []
  | entries :: rest => .table (looseEntries entries) :: looseTables rest
end

end MapTheme.Toml
