import MapTheme.Settings.Loose

/-! The outermost keys of a settings file name places: a name, then names after dots
and positions in brackets. A key that is no such expression is a plain name. What
stands at a place is merged into what came before, table by table. -/
namespace MapTheme

inductive Step where
  | key (name : String)
  | index (position : Int)
deriving Repr, DecidableEq

namespace Place

def isNameChar (c : Char) : Bool := c.isAlphanum || c = '_' || c = '-'

def isBlankInside (c : Char) : Bool := c = ' ' || c = '\t'

/-- A position in brackets, with blanks around it, after the first bracket. It is a
number of 64 bits without a plus sign. -/
def position? (cs : List Char) : Option (Int × List Char) :=
  let cs := cs.dropWhile isBlankInside
  let number := cs.takeWhile fun c => c = '-' || c.isDigit
  match (cs.drop number.length).dropWhile isBlankInside with
  | ']' :: rest => (Decimal.readInt? 0x8000000000000000 number).map fun n => (n, rest)
  | _ => none

def steps? : Nat → List Char → Option (List Step)
  | 0, _ => none
  | fuel + 1, cs =>
    match cs with
    | [] => some []
    | '.' :: rest =>
      let name := rest.takeWhile isNameChar
      if name = [] then none
      else (steps? fuel (rest.dropWhile isNameChar)).map (.key (String.ofList name) :: ·)
    | '[' :: rest => do
      let (position, rest) ← position? rest
      (steps? fuel rest).map (.index position :: ·)
    | _ => none

def ofKey (key : String) : List Step :=
  (steps? (key.length + 2) ('.' :: key.toList)).getD [.key key]

end Place

namespace Loose

mutual
/-- What stands where `older` stood once `newer` has been put there. -/
def merge (older : Loose) : Loose → Loose
  | .table entries =>
    match older with
    | .table old => .table (mergeEntries old entries)
    | _ => .table (mergeEntries [] entries)
  | newer => newer

def mergeEntries (older : List (String × Loose)) :
    List (String × Loose) → List (String × Loose)
  | [] => older
  | (name, value) :: rest =>
    mergeEntries (put name (merge ((older.lookup name).getD .nothing) value) older) rest
end

/-- A list made long enough for a position, which may count from its end, and the
position in it. -/
def reach (position : Int) (items : List Loose) : List Loose × Nat :=
  if 0 ≤ position then
    (items ++ List.replicate (position.toNat + 1 - items.length) .nothing, position.toNat)
  else
    let back := (-position).toNat
    if back ≤ items.length then (items, items.length - back)
    else (List.replicate (back - items.length) .nothing ++ items, 0)

/-- Puts a value at a place. What is in the way gives way. -/
def store (value : Loose) : List Step → Loose → Loose
  | [], older => older.merge value
  | .key name :: place, older =>
    let entries := match older with
      | .table entries => entries
      | _ => []
    .table (put name (store value place ((entries.lookup name).getD .nothing)) entries)
  | .index position :: place, older =>
    let items := match older with
      | .list items => items
      | _ => []
    let (items, index) := reach position items
    .list (items.modify index (store value place))

def ofEntries (entries : List (String × Loose)) : Loose :=
  entries.foldl (fun older (key, value) => store value (Place.ofKey key) older) (.table [])

end Loose
end MapTheme
