import MapTheme.Text.Letter

/-! Places in a text of YAML, the classes of characters that tell where words and lines
end, and the way over what stands between two tokens. A line ends with a line feed, a
carriage return, or both. -/
namespace MapTheme.Yaml

/-- A place in the text: how many characters and lines precede it, its column, whether
its line holds nothing but gaps so far, and the text from there on. -/
structure Spot where
  index : Nat := 0
  line : Nat := 0
  column : Nat := 0
  fresh : Bool := true
  rest : List Char
deriving Repr, DecidableEq

def isGap (c : Char) : Bool := c = ' ' || c = '\t'

def isLineEnd (c : Char) : Bool := c = '\n' || c = '\r'

def isFlowMark (c : Char) : Bool := c ∈ [',', '[', ']', '{', '}']

def endsLine : List Char → Bool
  | [] => true
  | c :: _ => isLineEnd c

def endsWord : List Char → Bool
  | [] => true
  | c :: _ => isGap c || isLineEnd c

def startsFlowMark (cs : List Char) : Bool := cs.head?.any isFlowMark

def isDivider (mark : Char) : List Char → Bool
  | a :: b :: c :: rest => a = mark && b = mark && c = mark && endsWord rest
  | _ => false

namespace Spot

def head? (s : Spot) : Option Char := s.rest.head?

def lineRest (s : Spot) : List Char := s.rest.takeWhile (!isLineEnd ·)

def skip (n : Nat) (s : Spot) : Spot :=
  { s with index := s.index + n, column := s.column + n, fresh := false, rest := s.rest.drop n }

def skipGaps (n : Nat) (s : Spot) : Spot :=
  { s with index := s.index + n, column := s.column + n, rest := s.rest.drop n }

def nextLine (s : Spot) : Spot :=
  match s.rest with
  | '\r' :: '\n' :: rest => { index := s.index + 2, line := s.line + 1, rest }
  | _ :: rest => { index := s.index + 1, line := s.line + 1, rest }
  | [] => s

def atStartDivider (s : Spot) : Bool := s.column = 0 && isDivider '-' s.rest

def atEndDivider (s : Spot) : Bool := s.column = 0 && isDivider '.' s.rest

def atDivider (s : Spot) : Bool := s.atStartDivider || s.atEndDivider

/-- Skips spaces, or gaps if tabs are allowed, and a comment after them, which must not
follow directly on what precedes it. Returns what was skipped before the comment. -/
def toLineEnd? (tabs : Bool) (s : Spot) : Option (List Char × Spot) :=
  let gaps := s.rest.takeWhile fun c => c = ' ' || (tabs && c = '\t')
  let after := s.skipGaps gaps.length
  if after.head? = some '#' then
    if gaps = [] then none else some (gaps, after.skipGaps after.lineRest.length)
  else some (gaps, after)

/-- Skips what is left of a line that holds no more than gaps and a comment. -/
def finishLine? (s : Spot) : Option Spot := do
  let (_, s) ← s.toLineEnd? true
  if endsLine s.rest then some s else none

/-- Skips gaps, comments and line ends up to the next token; tells whether lines ended.
A line that a tab indents by less than `indent` may hold no token. -/
def toToken? (indent : Int) : Nat → Bool → Spot → Option (Bool × Spot)
  | 0, ended, s => some (ended, s)
  | fuel + 1, ended, s =>
    match s.head? with
    | none => some (ended, s)
    | some c =>
      if c = '\t' && s.fresh && (s.column : Int) < indent then
        s.finishLine?.bind (toToken? indent fuel ended)
      else if isGap c then toToken? indent fuel ended (s.skipGaps 1)
      else if isLineEnd c then toToken? indent fuel true s.nextLine
      else if c = '#' then toToken? indent fuel ended (s.skipGaps s.lineRest.length)
      else some (ended, s)

end Spot
end MapTheme.Yaml
