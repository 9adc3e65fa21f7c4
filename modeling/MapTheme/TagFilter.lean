import MapTheme.Keys
import MapTheme.Text.Split

/-! Filters on the tags of a feature. A filter asks for one of its keys and one of
its values, not necessarily on the same tag; a negated one asks for a value only
where a key is present. -/
namespace MapTheme

inductive KeyPattern where
  | any
  | key (id : Nat)
deriving Repr, DecidableEq

inductive ValuePattern where
  | any
  | exact (value : String)
deriving Repr, DecidableEq

structure TagFilter where
  keys : List KeyPattern
  values : List ValuePattern
  negated : Bool
deriving Repr, DecidableEq

namespace TagFilter

/-- What an alternative of a key list stands for; a key that is not known stands
for nothing. -/
def keyPattern? (known : Dictionary) (key : String) : Option KeyPattern :=
  if key = "*" then some .any else (known.id? key).map .key

def valuePattern? (value : String) : Option ValuePattern :=
  if value = "~" then none else if value = "*" then some .any else some (.exact value)

def parse (known : Dictionary) (keys values : String) : TagFilter :=
  let values := Text.splitText '|' values
  { keys := (Text.splitText '|' keys).filterMap (keyPattern? known)
    values := values.filterMap valuePattern?
    negated := values.contains "~" }

def unknownKeys (known : Dictionary) (keys : String) : List String :=
  (Text.splitText '|' keys).filter fun key => (keyPattern? known key).isNone

def isTautology (f : TagFilter) : Bool :=
  !f.negated && f.keys.contains .any && f.values.contains .any

def keyHit (f : TagFilter) (tags : List Tag) : Bool :=
  f.keys.any fun
    | .any => true
    | .key id => tags.any (·.key = id)

def valueHit (f : TagFilter) (tags : List Tag) : Bool :=
  f.values.any fun
    | .any => true
    | .exact value => tags.any (·.value = value)

def accepts (f : TagFilter) (tags : List Tag) : Bool :=
  if f.negated then !f.keyHit tags || f.valueHit tags else f.keyHit tags && f.valueHit tags

end TagFilter
end MapTheme
