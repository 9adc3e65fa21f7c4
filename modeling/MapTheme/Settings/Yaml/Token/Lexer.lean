import MapTheme.Settings.Yaml.Token.Block
import MapTheme.Settings.Yaml.Token.Quoted
import MapTheme.Settings.Yaml.Token.Tag

/-! Cutting a text of YAML into tokens. A key without a mark of its own shows itself as
one only at its colon; its token, and that of the mapping it starts, are then put in
front of what has been read as a scalar or collection. The lexer therefore remembers
the place of the latest token that a key may start with. -/
namespace MapTheme.Yaml

/-- A place where a key may have started: how many tokens precede it, and whether the
layout admits nothing but a key there. -/
structure Candidate where
  start : Spot
  position : Nat
  required : Bool

/-- An indentation that has been left for a deeper one, and whether a block collection
starts with the deeper one. -/
structure Level where
  indent : Int
  isBlock : Bool

/-- The state of the lexer between two tokens. `enclosing` holds what may be a key in
front of each flow collection that is open. `asKey` tells for each open flow sequence
whether an entry without braces has been begun in it, and `braced` whether such entries
need none. Right after a quoted scalar or a flow collection, at the place `adjacent`, no
gap has to follow a colon. -/
structure Lexer where
  spot : Spot
  tokens : Array Token := #[]
  keyAllowed : Bool := true
  candidate : Option Candidate := none
  enclosing : List (Option Candidate) := []
  indent : Int := -1
  levels : List Level := []
  braced : Bool := false
  asKey : List Bool := []
  adjacent : Nat := 0

namespace Lexer

def maxDepth : Nat := 255

/-- How many characters a key may have without a mark. -/
def maxKeyLength : Nat := 1024

def inFlow (x : Lexer) : Bool := !x.enclosing.isEmpty

def emit (token : Token) (x : Lexer) : Lexer := { x with tokens := x.tokens.push token }

def emitAt (position : Nat) (token : Token) (x : Lexer) : Lexer :=
  { x with tokens := x.tokens.insertIdxIfInBounds position token }

def remember (x : Lexer) : Lexer :=
  if x.keyAllowed then
    let required := !x.inFlow && x.indent = x.spot.column && x.levels.head?.any Level.isBlock
    { x with candidate := some { start := x.spot, position := x.tokens.size, required } }
  else x

def forget? (x : Lexer) : Option Lexer :=
  if x.candidate.any Candidate.required then none else some { x with candidate := none }

/-- Outside of flow collections a key without a mark is short and stands on one line. -/
def expire? (x : Lexer) : Option Lexer :=
  match x.candidate with
  | none => some x
  | some k =>
    if !x.inFlow && (k.start.line < x.spot.line || k.start.index + maxKeyLength < x.spot.index)
    then x.forget?
    else some x

/-- Starts a block collection in a column, unless one has started there before. Its
token is put in front of those from a position on. -/
def startBlock (column : Nat) (position : Nat) (opening : Token) (x : Lexer) : Lexer :=
  if x.inFlow then x
  else
    let outer : Lexer := match x.levels with
      | ⟨indent, false⟩ :: levels => if x.indent ≤ column then { x with indent, levels } else x
      | _ => x
    if outer.indent < column then
      { outer with indent := column, levels := ⟨outer.indent, true⟩ :: outer.levels }.emitAt
        position opening
    else outer

def endBlocks (column : Int) : List Level → Lexer → Lexer
  | [], x => x
  | ⟨indent, isBlock⟩ :: levels, x =>
    if x.indent ≤ column then x
    else
      let x := { x with indent, levels }
      endBlocks column levels (if isBlock then x.emit .blockEnd else x)

def outdent (column : Int) (x : Lexer) : Lexer :=
  if x.inFlow then x else endBlocks column x.levels x

/-- What belongs to an entry of a block collection is indented by one column more. -/
def widen (x : Lexer) : Lexer :=
  if !x.inFlow && x.levels.head?.any Level.isBlock then
    { x with indent := x.indent + 1, levels := ⟨x.indent, false⟩ :: x.levels }
  else x

def narrow (x : Lexer) : Lexer :=
  match x.levels with
  | ⟨indent, false⟩ :: levels => { x with indent, levels }
  | _ => x

def readMark? (read : List Char → Option (Token × List Char)) (x : Lexer) : Option Lexer := do
  let (token, rest) ← read x.spot.rest
  let x := { x.remember with keyAllowed := false }
  some ({ x with spot := x.spot.skip (x.spot.rest.length - rest.length) }.emit token)

def anchor? (isAlias : Bool) (x : Lexer) : Option Lexer :=
  x.readMark? fun cs => (anchorName? (cs.drop 1)).map fun (name, rest) =>
    (if isAlias then .alias name else .anchor name, rest)

/-- A tag is a word of its own. -/
def tag? (x : Lexer) : Option Lexer := do
  let x ← x.readMark? Yaml.tag?
  if endsWord x.spot.rest || (x.inFlow && startsFlowMark x.spot.rest) then some x else none

def plainScalar? (x : Lexer) : Option Lexer := do
  let x := { x.remember with keyAllowed := false }.narrow
  let (text, spot) ← plain? x.inFlow (x.indent + 1) x.spot
  some ({ x with spot, keyAllowed := spot.fresh }.emit (.scalar true text))

def quotedScalar? (x : Lexer) : Option Lexer := do
  let x := x.remember
  let (text, spot) ← quoted? x.inFlow x.indent x.spot
  let (ended, spot) ← spot.toToken? x.indent (spot.rest.length + 1) false
  some ({ x with
    spot, keyAllowed := ended && !x.inFlow, adjacent := spot.index }.emit (.scalar false text))

def blockScalar? (folded : Bool) (x : Lexer) : Option Lexer := do
  let x := x.remember.narrow
  let (text, spot) ← block? folded x.indent (x.spot.skip 1)
  some ({ x with spot, keyAllowed := true }.emit (.scalar false text))

def directive? (x : Lexer) : Option Lexer := do
  let x ← (x.outdent (-1)).forget?
  let (token, rest) ← Yaml.directive? (x.spot.rest.drop 1)
  let spot ← (x.spot.skip (x.spot.rest.length - rest.length)).finishLine?
  some ({ x with spot := spot.nextLine, keyAllowed := false }.emit token)

def divider? (token : Token) (x : Lexer) : Option Lexer := do
  let x ← (x.outdent (-1)).forget?
  some ({ x with spot := x.spot.skip 3, keyAllowed := false }.emit token)

/-- Nothing but a comment follows the end of a document on its line. -/
def documentEnd? (x : Lexer) : Option Lexer := do
  let x ← x.divider? .endDocument
  some { x with spot := ← x.spot.finishLine? }

/-- Ends an entry without braces in the innermost flow sequence. -/
def endPair (x : Lexer) : Lexer :=
  match x.asKey with
  | true :: outer => { x with braced := false, asKey := false :: outer }.emit .closeMapping
  | _ => x

def openFlow? (isSequence : Bool) (x : Lexer) : Option Lexer := do
  let x := x.remember.widen
  if x.enclosing.length = maxDepth then none
  else
    let (_, spot) ← (x.spot.skip 1).toLineEnd? true
    let x := { x with
      spot, enclosing := x.candidate :: x.enclosing, candidate := none, keyAllowed := true }
    if isSequence then some ({ x with asKey := false :: x.asKey }.emit .openSequence)
    else some ({ x with braced := true }.emit .openMapping)

def closeFlow? (isSequence : Bool) (x : Lexer) : Option Lexer := do
  let x ← x.forget?
  let x := match x.enclosing with
    | [] => x
    | candidate :: enclosing => { x with candidate, enclosing }
  let x := if isSequence then
      let x := x.endPair
      { x with asKey := x.asKey.tail }
    else x
  let (_, spot) ← (x.spot.skip 1).toLineEnd? true
  let adjacent := if x.inFlow then spot.index else x.adjacent
  some ({ x with spot, adjacent, keyAllowed := false }.emit
    (if isSequence then .closeSequence else .closeMapping))

def separator? (x : Lexer) : Option Lexer := do
  let x ← x.forget?
  let x := { x with keyAllowed := true }.endPair
  let (_, spot) ← (x.spot.skip 1).toLineEnd? true
  some ({ x with spot }.emit .separator)

def entry? (x : Lexer) : Option Lexer :=
  if x.inFlow || !x.keyAllowed then none
  else do
    let (gaps, spot) ← (x.spot.skip 1).toLineEnd? true
    if gaps.contains '\t' && spot.head? = some '-' && endsWord (spot.rest.drop 1) then none
    else
      let x := { x with spot }.startBlock x.spot.column x.tokens.size .blockSequence
      let x := if spot.head?.any fun c => isLineEnd c || isFlowMark c then x.widen else x
      some ({ ← x.forget? with keyAllowed := true }.emit .entry)

/-- Skips spaces, comments and line ends after the mark of a key; tells whether there
has been a space or line end. -/
def skipAfterMark : Nat → Bool → Spot → Bool × Spot
  | 0, spaced, s => (spaced, s)
  | fuel + 1, spaced, s =>
    match s.head? with
    | none => (spaced, s)
    | some c =>
      if c = ' ' then skipAfterMark fuel true (s.skipGaps 1)
      else if isLineEnd c then skipAfterMark fuel true s.nextLine
      else if c = '#' then skipAfterMark fuel spaced (s.skipGaps s.lineRest.length)
      else (spaced, s)

def key? (x : Lexer) : Option Lexer := do
  if !x.inFlow && !x.keyAllowed then none
  let column := x.spot.column
  let x := if x.inFlow then { x with braced := true }
    else x.startBlock column x.tokens.size .blockMapping
  let x ← x.forget?
  let (spaced, spot) := skipAfterMark (x.spot.rest.length + 1) false (x.spot.skip 1)
  if !spaced || spot.head? = some '\t' then none
  else some ({ x with spot, keyAllowed := !x.inFlow }.emit .key)

/-- The place after a colon. A tab alone does not part it from a word. -/
def afterColon? (s : Spot) : Option Spot :=
  if s.head? = some '\t' then do
    let (gaps, after) ← s.toLineEnd? true
    if !gaps.contains ' ' && after.head?.any (fun c => c = '-' || Text.isLetterOrNumber c)
    then none
    else some after
  else some s

/-- The colon in front of a value. The key before it is the candidate, or has a mark, or
is missing. -/
def value? (x : Lexer) : Option Lexer := do
  let isPair := !x.asKey.isEmpty && !x.braced
  let colon := x.spot
  let spot ← afterColon? (colon.skip 1)
  let x := { x with spot, asKey := if isPair then true :: x.asKey.tail else x.asKey }
  match x.candidate with
  | some k =>
    if isPair && k.start.line < colon.line then none
    else
      let x := x.emitAt k.position .key
      let x := if isPair then x.emitAt k.position .openMapping else x
      let x := (x.startBlock k.start.column k.position .blockMapping).widen
      some ({ x with candidate := none, keyAllowed := false }.emit .value)
  | none =>
    if !x.inFlow && !x.keyAllowed then none
    else
      let x := if isPair then x.emit .openMapping else x
      let x := (x.startBlock colon.column x.tokens.size .blockMapping).widen
      some ({ x with keyAllowed := !x.inFlow }.emit .value)

def token? (x : Lexer) : Option Lexer :=
  match x.spot.rest with
  | [] => none
  | c :: rest =>
    if x.spot.column = 0 && c = '%' then x.directive?
    else if x.spot.atStartDivider then x.divider? .startDocument
    else if x.spot.atEndDivider then x.documentEnd?
    else if x.spot.column < x.indent && c ∉ [',', ']', '}'] then none
    else match c with
      | '[' => x.openFlow? true
      | '{' => x.openFlow? false
      | ']' => x.closeFlow? true
      | '}' => x.closeFlow? false
      | ',' => x.separator?
      | '*' => x.anchor? true
      | '&' => x.anchor? false
      | '!' => x.tag?
      | '\'' | '"' => x.quotedScalar?
      | '%' | '@' | '\x60' => none
      | '|' => if x.inFlow then x.plainScalar? else x.blockScalar? false
      | '>' => if x.inFlow then x.plainScalar? else x.blockScalar? true
      | '-' => if endsWord rest then x.entry? else x.plainScalar?
      | '?' => if endsWord rest then x.key? else x.plainScalar?
      | ':' =>
        if endsWord rest || (x.inFlow && (startsFlowMark rest || x.spot.index = x.adjacent)) then
          x.value?
        else x.plainScalar?
      | _ => x.plainScalar?

def tokens? : Nat → Lexer → Option (List Token)
  | 0, _ => none
  | fuel + 1, x => do
    let (ended, spot) ← x.spot.toToken? x.indent (x.spot.rest.length + 1) false
    let x ← { x with spot, keyAllowed := x.keyAllowed || (ended && !x.inFlow) }.expire?
    let x := x.outdent spot.column
    if spot.rest = [] then do
      let x ← x.forget?
      some ((x.outdent (-1)).emit .endText).tokens.toList
    else tokens? fuel (← x.token?)

end Lexer

/-- The tokens of a text, which ends at its first zero character. -/
def tokens? (cs : List Char) : Option (List Token) :=
  let cs := cs.takeWhile (· ≠ '\x00')
  Lexer.tokens? (cs.length + 1) { spot := { rest := cs } }

end MapTheme.Yaml
