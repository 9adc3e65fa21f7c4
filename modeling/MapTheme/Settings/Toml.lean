import MapTheme.Settings.Toml.Scalar
import MapTheme.Settings.Toml.Table

/-! Reading TOML: lines of keys and values, under headers that name tables and arrays
of tables. -/
namespace MapTheme.Toml

def afterComment? : List Char → Option (List Char)
  | '#' :: rest =>
    if (rest.takeWhile fun c => c ≠ '\n' && c ≠ '\r').any isControl then none
    else some (rest.dropWhile fun c => c ≠ '\n' && c ≠ '\r')
  | cs => some cs

def skipLines : Nat → List Char → Option (List Char)
  | 0, cs => some cs
  | fuel + 1, cs => do
    let cs ← afterComment? (skipGaps cs)
    match afterLineEnd? cs with
    | some rest => skipLines fuel rest
    | none => some cs

def toToken (cs : List Char) : Option (List Char) := skipLines (cs.length + 1) cs

mutual
def value (depth : Nat) : Nat → Reader Loose
  | 0, _ => none
  | fuel + 1, cs =>
    match cs with
    | '[' :: rest => do
      if depth = 0 then none
      let (items, rest) ← items (depth - 1) fuel [] (← toToken rest)
      some (.list items, rest)
    | '\x7b' :: rest => do
      if depth = 0 then none
      let (entries, rest) ← inlineEntries (depth - 1) fuel [] (← toToken rest)
      some (.table (looseEntries entries), rest)
    | cs => scalar? cs

def items (depth : Nat) : Nat → List Loose → Reader (List Loose)
  | 0, _, _ => none
  | fuel + 1, seen, cs =>
    match cs with
    | ']' :: rest => some (seen.reverse, rest)
    | cs => do
      let (item, rest) ← value depth fuel cs
      match ← toToken rest with
      | ',' :: rest => items depth fuel (item :: seen) (← toToken rest)
      | ']' :: rest => some ((item :: seen).reverse, rest)
      | _ => none

def inlineEntries (depth : Nat) : Nat → Entries → Reader Entries
  | 0, _, _ => none
  | fuel + 1, seen, cs =>
    match cs with
    | '\x7d' :: rest => some (seen, rest)
    | cs => do
      let (path, rest) ← key? cs
      match ← toToken rest with
      | '=' :: rest => do
        let (item, rest) ← value depth fuel (← toToken rest)
        let seen ← assign (.value item) path seen
        match ← toToken rest with
        | ',' :: rest => inlineEntries depth fuel seen (← toToken rest)
        | '\x7d' :: rest => some (seen, rest)
        | _ => none
      | _ => none
end

/-- The header of a table or of an array's next table, after its first bracket. -/
def header (entries : Entries) : Reader (List String × Entries)
  | '[' :: rest => do
    let (path, rest) ← key? (skipGaps rest)
    match skipGaps rest with
    | ']' :: ']' :: rest => some ((path, ← openElement path entries), rest)
    | _ => none
  | rest => do
    let (path, rest) ← key? (skipGaps rest)
    match skipGaps rest with
    | ']' :: rest => some ((path, ← openTable path entries), rest)
    | _ => none

def entry (table : List String) (entries : Entries) (cs : List Char) :
    Option (Entries × List Char) := do
  let (path, rest) ← key? cs
  match skipGaps rest with
  | '=' :: rest => do
    let (item, rest) ← value maxDepth (rest.length + 1) (skipGaps rest)
    some (← within (assign (.value item) path) table entries, rest)
  | _ => none

def endLine (cs : List Char) : Option (List Char) := do
  let cs ← afterComment? (skipGaps cs)
  if cs = [] then some [] else afterLineEnd? cs

def statements : Nat → List String → Entries → List Char → Option Entries
  | 0, _, _, _ => none
  | fuel + 1, table, entries, cs =>
    match skipGaps cs with
    | [] => some entries
    | '[' :: rest => do
      let ((table, entries), rest) ← header entries rest
      statements fuel table entries (← endLine rest)
    | c :: rest =>
      if c = '#' || c = '\n' || c = '\r' then do
        statements fuel table entries (← endLine (c :: rest))
      else do
        let (entries, rest) ← entry table entries (c :: rest)
        statements fuel table entries (← endLine rest)

/-- The table that a text describes. A byte order mark may come first. -/
def read? (cs : List Char) : Option (List (String × Loose)) :=
  let cs := match cs with
    | '\ufeff' :: rest => rest
    | cs => cs
  (statements (cs.length + 1) [] [] cs).map looseEntries

end MapTheme.Toml
