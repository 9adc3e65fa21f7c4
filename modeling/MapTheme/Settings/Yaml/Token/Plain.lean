import MapTheme.Settings.Yaml.Spot

/-! Scalars without quotes, and how lines are folded: of the line ends between two words
a single one counts as a space, and of several the first does not count. -/
namespace MapTheme.Yaml

/-- What stands between two words of a scalar: gaps on one line, or line ends. A first
line end may be taken back by a backslash. -/
structure Pause where
  gaps : List Char := []
  lines : Nat := 0
  escaped : Bool := false

namespace Pause

def isBroken (p : Pause) : Bool := p.escaped || 0 < p.lines

def addGap (c : Char) (p : Pause) : Pause :=
  if p.isBroken then p else { p with gaps := p.gaps ++ [c] }

def addLine (p : Pause) : Pause := { p with gaps := [], lines := p.lines + 1 }

def text (p : Pause) : List Char :=
  if p.escaped then List.replicate p.lines '\n'
  else match p.lines with
    | 0 => p.gaps
    | 1 => [' ']
    | lines + 1 => List.replicate lines '\n'

end Pause

/-- A colon that ends a word, or punctuation of a flow collection inside of one. -/
def endsPlain (flow : Bool) : List Char → Bool
  | [] => true
  | ':' :: rest => endsWord rest || (flow && startsFlowMark rest)
  | c :: _ => flow && isFlowMark c

def plainWord (flow : Bool) : List Char → List Char
  | [] => []
  | c :: rest =>
    if endsWord (c :: rest) || endsPlain flow (c :: rest) then [] else c :: plainWord flow rest

/-- The pause after a word. A line that a tab indents by less than `indent` may hold no
further word. -/
def plainPause? (indent : Int) : Nat → Pause → Spot → Option (Pause × Spot)
  | 0, p, s => some (p, s)
  | fuel + 1, p, s =>
    match s.head? with
    | none => some (p, s)
    | some c =>
      if isLineEnd c then plainPause? indent fuel p.addLine s.nextLine
      else if c = '\t' && p.isBroken && (s.column : Int) < indent then
        s.finishLine?.bind (plainPause? indent fuel p)
      else if isGap c then plainPause? indent fuel (p.addGap c) (s.skipGaps 1)
      else some (p, s)

/-- The words from here on, after what has been read and the pause after it. Outside of
flow collections a line that is indented by less than `indent` ends them. -/
def plainFrom? (flow : Bool) (indent : Int) :
    Nat → List Char → List Char → Spot → Option (List Char × Spot)
  | 0, seen, _, s => some (seen, s)
  | fuel + 1, seen, pause, s =>
    if s.atDivider || s.head? = some '#' then some (seen, s)
    else if flow && s.head? = some '-' && startsFlowMark (s.rest.drop 1) then none
    else match plainWord flow s.rest with
      | [] => some (seen, s)
      | word =>
        let seen := seen ++ pause ++ word
        let after := s.skip word.length
        if after.rest = [] || !endsWord after.rest then some (seen, after)
        else do
          let (pause, after) ← plainPause? indent (after.rest.length + 1) {} after
          if !flow && (after.column : Int) < indent then some (seen, after)
          else plainFrom? flow indent fuel seen pause.text after

def plain? (flow : Bool) (indent : Int) (s : Spot) : Option (List Char × Spot) :=
  if flow && (s.column : Int) < indent then none
  else (plainFrom? flow indent (s.rest.length + 1) [] [] s).filter (·.1 ≠ [])

end MapTheme.Yaml
