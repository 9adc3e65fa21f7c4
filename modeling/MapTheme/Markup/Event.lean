import MapTheme.Markup.Attribute

/-! Elements as they start and stop. An empty tag starts an element and stops it at
once. The names of open elements are kept as written, since an end tag has to repeat
the name that its start tag was written with. -/
namespace MapTheme.Markup

inductive Event where
  | start (name : String) (attributes : List (String × String))
  | stop (position : Nat)
deriving Repr, DecidableEq

/-- The name in an end tag. Space after it is not part of it. -/
def closingName (cs : List Char) : List Char :=
  if cs.all isSpace then cs else (cs.reverse.dropWhile isSpace).reverse

/-- The content of a start tag without the final slash of an empty one. -/
def splitSlash (content : List Char) : List Char × Bool :=
  if content.getLast? = some '/' then (content.dropLast, true) else (content, false)

def Event.ofTag (opened : List (List Char)) (tag : Tag) :
    Except Fault (List Event × List (List Char)) :=
  match tag.content with
  | '/' :: rest =>
    let name := closingName rest
    match opened with
    | [] => .error ⟨tag.start, .strayEnd (String.ofList name)⟩
    | expected :: opened =>
      if expected = name then .ok ([.stop tag.stop], opened)
      else .error ⟨tag.start, .mismatchedEnd (String.ofList expected) (String.ofList name)⟩
  | content =>
    let (body, empty) := splitSlash content
    let name := body.takeWhile (!isSpace ·)
    match readAttributes (width body) [] (body.dropWhile (!isSpace ·)) with
    | .error reason => .error ⟨tag.stop, reason⟩
    | .ok attributes =>
      let start := Event.start (String.ofList (localName name)) attributes
      if empty then .ok ([start, .stop tag.stop], opened) else .ok ([start], name :: opened)

/-- The events of a text up to its end or to its first fault. -/
structure Reading where
  events : List Event
  fault : Option Fault
deriving Repr, DecidableEq

def Reading.ofTags (fault : Option Fault) (opened : List (List Char)) : List Tag → Reading
  | [] => ⟨[], fault⟩
  | tag :: tags =>
    match Event.ofTag opened tag with
    | .error fault => ⟨[], some fault⟩
    | .ok (events, opened) =>
      let rest := Reading.ofTags fault opened tags
      ⟨events ++ rest.events, rest.fault⟩

def Reading.ofText (cs : List Char) : Reading :=
  let (tags, fault) := scan 0 cs
  Reading.ofTags fault [] tags

end MapTheme.Markup
