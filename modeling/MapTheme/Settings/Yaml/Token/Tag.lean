import MapTheme.Settings.Yaml.Spot
import MapTheme.Settings.Yaml.Token
import MapTheme.Text.Hex

/-! Directives and the marks of nodes: anchors, aliases and tags. A tag is a handle,
which a directive may give a meaning, and a suffix. -/
namespace MapTheme.Yaml

abbrev Reader (α : Type) := List Char → Option (α × List Char)

def isNameChar (c : Char) : Bool := c.isAlphanum || c = '_' || c = '-'

def isUriChar (c : Char) : Bool :=
  c.isAlphanum || c ∈ ['-', '#', ';', '/', '?', ':', '@', '&', '=', '+', '$', ',', '_', '.', '!',
    '~', '*', '\'', '(', ')', '[', ']', '%']

def isTagChar (c : Char) : Bool := isUriChar c && !isFlowMark c && c ≠ '!'

def escapedByte? : Reader Nat
  | '%' :: a :: b :: rest =>
    if Text.isHex a && Text.isHex b then some (Text.hexNumber [a, b], rest) else none
  | _ => none

def moreBytes? : Nat → Nat → Reader Nat
  | 0, code, cs => some (code, cs)
  | count + 1, code, cs => do
    let (byte, cs) ← escapedByte? cs
    if byte / 64 = 2 then moreBytes? count (256 * code + byte) cs else none

/-- A character whose bytes are escaped. The bytes are taken as one number, so that no
character of more than two of them can be meant. -/
def escapedChar? (cs : List Char) : Option (Char × List Char) := do
  let (lead, cs) ← escapedByte? cs
  let more ←
    if lead < 0x80 then some 0
    else if lead / 32 = 6 then some 1
    else if lead / 16 = 14 then some 2
    else if lead / 8 = 30 then some 3
    else none
  let (code, cs) ← moreBytes? more lead cs
  if code.isValidChar then some (Char.ofNat code, cs) else none

/-- The longest run of characters of a class, some of them escaped. -/
def uriText? (allowed : Char → Bool) : Nat → Reader (List Char)
  | 0, cs => some ([], cs)
  | fuel + 1, cs =>
    match cs with
    | [] => some ([], [])
    | c :: rest =>
      if !allowed c then some ([], c :: rest)
      else do
        let (c, rest) ← if c = '%' then escapedChar? (c :: rest) else some (c, rest)
        let (text, rest) ← uriText? allowed fuel rest
        some (c :: text, rest)

def uri? (cs : List Char) : Option (List Char × List Char) := uriText? isUriChar cs.length cs

def tagSuffix? (cs : List Char) : Option (List Char × List Char) := uriText? isTagChar cs.length cs

/-- A handle: an exclamation mark, then perhaps a name and perhaps a second mark. -/
def handle? : Reader (List Char)
  | '!' :: rest =>
    let name := rest.takeWhile isNameChar
    match rest.dropWhile isNameChar with
    | '!' :: rest => some ('!' :: name ++ ['!'], rest)
    | rest => some ('!' :: name, rest)
  | _ => none

/-- Whether a handle has two marks, so that only a directive gives it a meaning. -/
def isNamedHandle (handle : List Char) : Bool :=
  2 ≤ handle.length && handle.head? = some '!' && handle.getLast? = some '!'

/-- A tag in angle brackets has no handle. One without a named handle is a local tag,
of which the lone mark has a form of its own. -/
def tag? : Reader Token
  | '!' :: '<' :: rest => do
    match ← uri? rest with
    | (suffix, '>' :: rest) => some (.tag [] suffix, rest)
    | _ => none
  | cs => do
    let (handle, rest) ← handle? cs
    let (suffix, rest) ← tagSuffix? rest
    if isNamedHandle handle then if suffix = [] then none else some (.tag handle suffix, rest)
    else if handle.length = 1 && suffix = [] then some (.tag [] ['!'], rest)
    else some (.tag ['!'] (handle.drop 1 ++ suffix), rest)

def anchorName? (cs : List Char) : Option (List Char × List Char) :=
  let ofName (c : Char) : Bool := !isGap c && !isLineEnd c && !isFlowMark c && c ≠ '\ufeff'
  let name := cs.takeWhile ofName
  if name = [] then none else some (name, cs.dropWhile ofName)

/-- A number of a version: at most nine digits. -/
def versionNumber? (cs : List Char) : Option (List Char) :=
  let digits := cs.takeWhile Char.isDigit
  if digits = [] || 9 < digits.length then none else some (cs.dropWhile Char.isDigit)

def tagPrefix? : Reader (List Char)
  | '!' :: rest => (uri? rest).map fun (text, rest) => ('!' :: text, rest)
  | cs => if cs.head?.any isTagChar then uri? cs else none

/-- A directive, after its percent sign. One of another name is a tag directive that
says nothing. -/
def directive? (cs : List Char) : Option (Token × List Char) :=
  let name := cs.takeWhile isNameChar
  let rest := cs.dropWhile isNameChar
  if name = [] || !endsWord rest then none
  else if name = ['Y', 'A', 'M', 'L'] then do
    match ← versionNumber? (rest.dropWhile isGap) with
    | '.' :: rest => some (.versionDirective, ← versionNumber? rest)
    | _ => none
  else if name = ['T', 'A', 'G'] then do
    let (handle, rest) ← handle? (rest.dropWhile isGap)
    let (tagPrefix, rest) ← tagPrefix? (rest.dropWhile isGap)
    if (handle.length = 1 || isNamedHandle handle) && endsWord rest then
      some (.tagDirective handle tagPrefix, rest)
    else none
  else some (.tagDirective [] [], rest.dropWhile (!isLineEnd ·))

end MapTheme.Yaml
