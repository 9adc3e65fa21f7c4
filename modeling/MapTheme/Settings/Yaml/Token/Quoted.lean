import MapTheme.Settings.Yaml.Token.Plain
import MapTheme.Text.Hex

/-! Scalars in quotes. Two single quotes in a row stand for one; between double quotes a
backslash starts an escape, or takes a line end away. -/
namespace MapTheme.Yaml

def namedEscapes : List (Char × Char) :=
  [('0', '\x00'), ('a', '\x07'), ('b', '\x08'), ('t', '\t'), ('\t', '\t'), ('n', '\n'),
   ('v', '\x0b'), ('f', '\x0c'), ('r', '\r'), ('e', '\x1b'), (' ', ' '), ('"', '"'), ('/', '/'),
   ('\\', '\\'), ('N', '\u0085'), ('_', '\u00a0'), ('L', '\u2028'), ('P', '\u2029')]

def escapeWidth? : Char → Option Nat
  | 'x' => some 2
  | 'u' => some 4
  | 'U' => some 8
  | _ => none

/-- The character of an escape, and how many characters stand for it after the
backslash. -/
def escaped? : List Char → Option (Char × Nat)
  | [] => none
  | c :: rest =>
    match namedEscapes.lookup c, escapeWidth? c with
    | some char, _ => some (char, 1)
    | none, some width =>
      let ds := rest.take width
      let n := Text.hexNumber ds
      if ds.length = width && ds.all Text.isHex && n.isValidChar then
        some (Char.ofNat n, width + 1)
      else none
    | none, none => none

/-- The characters up to the next gap, line end or closing quote, and whether a line end
has been taken away after them. -/
def quotedWord? (quote : Char) : Nat → Spot → Option (List Char × Bool × Spot)
  | 0, s => some ([], false, s)
  | fuel + 1, s =>
    match s.rest with
    | [] => some ([], false, s)
    | c :: rest =>
      if isGap c || isLineEnd c then some ([], false, s)
      else if c = quote then
        if quote = '\'' && rest.head? = some '\'' then do
          let (word, more) ← quotedWord? quote fuel (s.skip 2)
          some ('\'' :: word, more)
        else some ([], false, s)
      else if c = '\\' && quote = '"' then
        if rest.head?.any isLineEnd then some ([], true, (s.skip 1).nextLine)
        else do
          let (char, width) ← escaped? rest
          let (word, more) ← quotedWord? quote fuel (s.skip (width + 1))
          some (char :: word, more)
      else do
        let (word, more) ← quotedWord? quote fuel (s.skip 1)
        some (c :: word, more)

/-- The pause after a word. No tab may indent a line by less than `indent`. -/
def quotedPause? (indent : Int) : Nat → Pause → Spot → Option (Pause × Spot)
  | 0, p, s => some (p, s)
  | fuel + 1, p, s =>
    match s.head? with
    | none => some (p, s)
    | some c =>
      if isLineEnd c then quotedPause? indent fuel p.addLine s.nextLine
      else if c = '\t' && p.isBroken && (s.column : Int) < indent then none
      else if isGap c then quotedPause? indent fuel (p.addGap c) (s.skipGaps 1)
      else some (p, s)

/-- The rest of a scalar, after what has been read. Its lines are indented by `indent`
at least, and no document ends inside of it. -/
def quotedFrom? (quote : Char) (indent : Int) :
    Nat → List Char → Spot → Option (List Char × Spot)
  | 0, _, _ => none
  | fuel + 1, seen, s =>
    if s.atDivider || s.rest = [] || (s.column : Int) < indent then none
    else do
      let (word, escaped, s) ← quotedWord? quote (s.rest.length + 1) s
      if s.head? = some quote then some (seen ++ word, s.skip 1)
      else
        let (pause, s) ← quotedPause? indent (s.rest.length + 1) { escaped } s
        quotedFrom? quote indent fuel (seen ++ word ++ pause.text) s

/-- What may follow a closing quote: the end of the line, a colon, and inside of flow
collections some of their punctuation. Outside of them a key stands on one line. -/
def mayFollowQuoted (flow sameLine : Bool) : List Char → Bool
  | [] => true
  | c :: _ =>
    isLineEnd c || (c = ':' && (flow || sameLine)) || (flow && c ∈ [',', ']', '}'])

def quoted? (flow : Bool) (indent : Int) (s : Spot) : Option (List Char × Spot) := do
  let quote ← s.head?
  let (text, after) ← quotedFrom? quote indent (s.rest.length + 1) [] (s.skip 1)
  let (_, after) ← after.toLineEnd? true
  if mayFollowQuoted flow (s.line = after.line) after.rest then some (text, after) else none

end MapTheme.Yaml
