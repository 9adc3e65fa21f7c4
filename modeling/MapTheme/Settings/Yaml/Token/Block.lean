import MapTheme.Settings.Yaml.Spot

/-! Scalars that are blocks of lines. A header tells whether lines are folded, what
becomes of the line ends after the last one, and perhaps how far lines are indented. -/
namespace MapTheme.Yaml

/-- What becomes of the line ends after the last line: none is kept, one, or all. -/
inductive Chomp where
  | strip
  | clip
  | keep
deriving Repr, DecidableEq

structure BlockHeader where
  folded : Bool
  chomp : Chomp := .clip
  increment : Option Nat := none
deriving Repr, DecidableEq

def chomp? : List Char → Option (Chomp × List Char)
  | '-' :: rest => some (.strip, rest)
  | '+' :: rest => some (.keep, rest)
  | _ => none

def increment? : List Char → Option (Option Nat × List Char)
  | [] => some (none, [])
  | c :: rest =>
    if c = '0' then none
    else if c.isDigit then some (some (c.toNat - '0'.toNat), rest)
    else some (none, c :: rest)

/-- The rest of a header: a mark and a digit in either order, or one of them. -/
def header? (folded : Bool) (cs : List Char) : Option (BlockHeader × List Char) :=
  match chomp? cs with
  | some (chomp, rest) => (increment? rest).map fun (increment, rest) =>
      ({ folded, chomp, increment }, rest)
  | none => (increment? cs).map fun (increment, rest) =>
      match increment, chomp? rest with
      | some _, some (chomp, rest) => ({ folded, chomp, increment }, rest)
      | _, _ => ({ folded, increment }, rest)

/-- Skips empty lines and spaces up to a column; counts the lines. -/
def skipIndent (indent : Nat) : Nat → Nat → Spot → Nat × Spot
  | 0, lines, s => (lines, s)
  | fuel + 1, lines, s =>
    let s := s.skipGaps ((s.rest.take (indent - s.column)).takeWhile (· = ' ')).length
    if s.head?.any isLineEnd then skipIndent indent fuel (lines + 1) s.nextLine else (lines, s)

/-- Skips empty lines and spaces; counts the lines, and finds the widest indentation. -/
def measureIndent : Nat → Nat → Nat → Spot → Nat × Nat × Spot
  | 0, widest, lines, s => (widest, lines, s)
  | fuel + 1, widest, lines, s =>
    let s := s.skipGaps (s.rest.takeWhile (· = ' ')).length
    let widest := max widest s.column
    if s.head?.any isLineEnd then measureIndent fuel widest (lines + 1) s.nextLine
    else (widest, lines, s)

/-- A text that has been read from a block: its characters, whether a line end follows
them, and how many empty lines come next. -/
structure BlockText where
  seen : List Char := []
  ended : Bool := false
  empty : Nat := 0

/-- A line more. Of a folded text the end of the line before it becomes a space where
neither line starts with a gap, unless there are empty lines between the two. -/
def BlockText.join (folded wasGap : Bool) (line : List Char) (b : BlockText) : List Char :=
  let empty := List.replicate b.empty '\n'
  if folded && b.ended && !wasGap && !line.head?.any isGap then
    b.seen ++ (if b.empty = 0 then [' '] else empty) ++ line
  else b.seen ++ (if b.ended then ['\n'] else []) ++ empty ++ line

def blockLines (folded : Bool) (indent : Nat) :
    Nat → Bool → BlockText → Spot → BlockText × Spot
  | 0, _, b, s => (b, s)
  | fuel + 1, wasGap, b, s =>
    if s.column ≠ indent || s.rest = [] || (indent = 0 && s.atEndDivider) then (b, s)
    else
      let line := s.lineRest
      let seen := b.join folded wasGap line
      let after := s.skip line.length
      if after.rest = [] then ({ seen }, after)
      else
        let after := after.nextLine
        let (empty, after) := skipIndent indent (after.rest.length + 1) 0 after
        blockLines folded indent fuel (line.head?.any isGap) { seen, ended := true, empty } after

/-- The text without lines of its own at the end of the document. -/
def emptyBlock (chomp : Chomp) (ended : Bool) (empty : Nat) : List Char :=
  match chomp with
  | .strip => []
  | .clip => if ended then ['\n'] else []
  | .keep => if ended then List.replicate (max empty 1) '\n' else []

/-- What the last line end and the empty lines after it become. Where the text ends in a
line that is indented as the others are, that line counts as ended. -/
def BlockText.finish (chomp : Chomp) (indent : Nat) (b : BlockText) (s : Spot) : List Char :=
  let last := (if b.ended then ['\n'] else []) ++
    (if s.rest = [] && max indent 1 ≤ s.column then ['\n'] else [])
  match chomp with
  | .strip => b.seen
  | .clip => b.seen ++ last
  | .keep => b.seen ++ last ++ List.replicate b.empty '\n'

/-- A block scalar whose parent is indented by `parent`, from the character after its
mark on. Without a digit in its header the first line tells its indentation. -/
def block? (folded : Bool) (parent : Int) (s : Spot) : Option (List Char × Spot) := do
  let (header, rest) ← header? folded s.rest
  let head ← (s.skip (s.rest.length - rest.length)).finishLine?
  let ended := head.rest ≠ []
  let body := if ended then head.nextLine else head
  if body.head? = some '\t' then none
  else
    let fuel := body.rest.length + 1
    let (indent, empty, first) := match header.increment with
      | some n =>
        let indent := ((max parent 0) + n).toNat
        let (empty, first) := skipIndent indent fuel 0 body
        (indent, empty, first)
      | none =>
        let (widest, empty, first) := measureIndent fuel 0 0 body
        (max widest (parent + 1).toNat, empty, first)
    if first.rest = [] then some (emptyBlock header.chomp (head.line < first.line) empty, first)
    else if first.column < indent && parent < first.column then none
    else
      let (b, after) := blockLines folded indent fuel false { empty } first
      some (b.finish header.chomp indent after, after)

end MapTheme.Yaml
