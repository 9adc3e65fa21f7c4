import MapTheme.Settings.Yaml.Token

/-! The nodes of a document of YAML, and how tokens nest them. -/
namespace MapTheme.Yaml

/-- What a tag stands for once a directive has given its handle a meaning. -/
structure Tag where
  handle : List Char
  suffix : List Char
deriving Repr, DecidableEq

structure Marks where
  anchor : Option (List Char) := none
  tag : Option Tag := none
deriving Repr, DecidableEq

/-- A node. A table holds its keys and values in turn. -/
inductive Node where
  | alias (name : List Char)
  | scalar (marks : Marks) (plain : Bool) (text : List Char)
  | list (marks : Marks) (items : List Node)
  | table (marks : Marks) (nodes : List Node)

def Node.missing : Node := .scalar {} true ['~']

abbrev Handles := List (List Char × List Char)

/-- The handle of the tags of YAML itself. -/
def coreHandle : List Char :=
  ['t', 'a', 'g', ':', 'y', 'a', 'm', 'l', '.', 'o', 'r', 'g', ',', '2', '0', '0', '2', ':']

/-- The meaning of a tag. A handle with a name must have been given one. -/
def Tag.resolve? (handles : Handles) (handle suffix : List Char) : Option Tag :=
  match handles.lookup handle with
  | some meaning => some ⟨meaning, suffix⟩
  | none =>
    if handle = ['!', '!'] then some ⟨coreHandle, suffix⟩
    else if 2 ≤ handle.length then none
    else some ⟨handle, suffix⟩

def readMarks? (handles : Handles) : List Token → Option (Marks × List Token)
  | .anchor name :: .tag handle suffix :: rest => do
    some ({ anchor := some name, tag := some (← Tag.resolve? handles handle suffix) }, rest)
  | .tag handle suffix :: .anchor name :: rest => do
    some ({ anchor := some name, tag := some (← Tag.resolve? handles handle suffix) }, rest)
  | .anchor name :: rest => some ({ anchor := some name }, rest)
  | .tag handle suffix :: rest => do
    some ({ tag := some (← Tag.resolve? handles handle suffix) }, rest)
  | rest => some ({}, rest)

/-- Reads what tokens start with, and returns those that are left. -/
abbrev TokenReader (α : Type) := List Token → Option (α × List Token)

def orMissing (ends : List Token) (node : TokenReader Node) : TokenReader Node
  | [] => none
  | token :: rest =>
    if token ∈ ends then some (.missing, token :: rest) else node (token :: rest)

mutual
/-- A node. Inside of flow collections no block collection starts; a sequence whose
dashes are not indented may only belong to a key. -/
def node? (handles : Handles) (block ofKey : Bool) : Nat → TokenReader Node
  | 0, _ => none
  | _, .alias name :: rest => some (.alias name, rest)
  | fuel + 1, ts => do
    let (marks, rest) ← readMarks? handles ts
    match rest, block, ofKey with
    | .scalar plain text :: rest, _, _ => some (.scalar marks plain text, rest)
    | .openSequence :: rest, _, _ => do
      let (items, rest) ← flowItems? handles fuel true rest
      some (.list marks items, rest)
    | .openMapping :: rest, _, _ => do
      let (nodes, rest) ← flowEntries? handles fuel true rest
      some (.table marks nodes, rest)
    | .blockSequence :: rest, true, _ => do
      let (items, rest) ← blockItems? handles fuel rest
      some (.list marks items, rest)
    | .blockMapping :: rest, true, _ => do
      let (nodes, rest) ← blockEntries? handles fuel rest
      some (.table marks nodes, rest)
    | .entry :: rest, _, true => do
      let (items, rest) ← keyItems? handles fuel (.entry :: rest)
      some (.list marks items, rest)
    | rest, _, _ => if marks = {} then none else some (.scalar marks true [], rest)

def blockItems? (handles : Handles) : Nat → TokenReader (List Node)
  | 0, _ => none
  | _, .blockEnd :: rest => some ([], rest)
  | fuel + 1, .entry :: rest => do
    let (item, rest) ← orMissing [.entry, .blockEnd] (node? handles true false fuel) rest
    let (items, rest) ← blockItems? handles fuel rest
    some (item :: items, rest)
  | _, _ => none

/-- The items of a sequence that is not indented, as far as it goes. -/
def keyItems? (handles : Handles) : Nat → TokenReader (List Node)
  | 0, _ => none
  | fuel + 1, .entry :: rest => do
    let (item, rest) ← orMissing [.entry, .key, .value, .blockEnd] (node? handles true false fuel)
      rest
    let (items, rest) ← keyItems? handles fuel rest
    some (item :: items, rest)
  | _, rest => some ([], rest)

def blockEntries? (handles : Handles) : Nat → TokenReader (List Node)
  | 0, _ => none
  | _, .blockEnd :: rest => some ([], rest)
  | fuel + 1, ts => do
    let inBlock := orMissing [.key, .value, .blockEnd] (node? handles true true fuel)
    let (key, rest) ← match ts with
      | .key :: rest => inBlock rest
      | .value :: rest => some (.missing, .value :: rest)
      | _ => none
    let (value, rest) ← match rest with
      | .value :: rest => inBlock rest
      | rest => some (.missing, rest)
    let (nodes, rest) ← blockEntries? handles fuel rest
    some (key :: value :: nodes, rest)

/-- The entries of a flow mapping from the first or from a later one on, up to its end. A
node that is not marked as a key is one without a value. -/
def flowEntries? (handles : Handles) : Nat → Bool → TokenReader (List Node)
  | 0, _, _ => none
  | _, _, .closeMapping :: rest => some ([], rest)
  | fuel + 1, false, .separator :: rest => flowEntries? handles fuel true rest
  | _, false, _ => none
  | fuel + 1, true, ts => do
    let flow := node? handles false false fuel
    let (key, rest) ← match ts with
      | .key :: rest => orMissing [.value, .separator, .closeMapping] flow rest
      | .value :: rest => some (.missing, .value :: rest)
      | rest => flow rest
    let (value, rest) ← match ts.head?, rest with
      | some .key, .value :: rest | some .value, .value :: rest =>
        orMissing [.separator, .closeMapping] flow rest
      | _, rest => some (.missing, rest)
    let (nodes, rest) ← flowEntries? handles fuel false rest
    some (key :: value :: nodes, rest)

/-- The items of a flow sequence from the first or from a later one on, up to its end. A
key starts an item that is a mapping of one entry; where it is missing, so is what
would follow it. -/
def flowItems? (handles : Handles) : Nat → Bool → TokenReader (List Node)
  | 0, _, _ => none
  | _, _, .closeSequence :: rest => some ([], rest)
  | fuel + 1, false, .separator :: rest => flowItems? handles fuel true rest
  | _, false, _ => none
  | fuel + 1, true, .key :: rest => do
    let flow := node? handles false false fuel
    let (key, rest) ← match rest with
      | .value :: rest | .separator :: rest | .closeSequence :: rest => some (.missing, rest)
      | rest => flow rest
    let (value, rest) ← match rest with
      | .value :: rest => orMissing [.separator, .closeSequence] flow rest
      | rest => some (.missing, rest)
    let (items, rest) ← flowItems? handles fuel false rest
    some (.table {} [key, value] :: items, rest)
  | fuel + 1, true, ts => do
    let (item, rest) ← node? handles false false fuel ts
    let (items, rest) ← flowItems? handles fuel false rest
    some (item :: items, rest)
end

/-- The directives before a document. At most one names a version; the last one alone
gives a handle its meaning, if it does. -/
def directives? (versioned : Bool) (handles : Handles) : TokenReader Handles
  | .versionDirective :: rest => if versioned then none else directives? true [] rest
  | .tagDirective handle meaning :: rest => directives? versioned [(handle, meaning)] rest
  | rest => some (handles, rest)

def document? (ts : List Token) : Option (Option Node) := do
  let ts := ts.dropWhile (· = .endDocument)
  if ts = [.endText] then some none
  else
    let (handles, rest) ← directives? false [] ts
    let (root, rest) ← match rest with
      | .startDocument :: rest =>
        orMissing [.endDocument, .endText] (node? handles true false (2 * rest.length + 2)) rest
      | rest =>
        if rest.length = ts.length then node? handles true false (2 * rest.length + 2) rest
        else none
    if rest.dropWhile (· = .endDocument) = [.endText] then some (some root) else none

end MapTheme.Yaml
