import MapTheme.Markup.Element
import MapTheme.Markup.Event

/-! Assembling the one tree of a document from its events. A second root is reported
when it is complete, elements left open when the text has ended, and a text without
any element last. -/
namespace MapTheme.Markup

/-- An element whose end has not been read; its latest child comes first. -/
structure Unfinished where
  name : String
  attributes : List (String × String)
  children : List Element := []

def Unfinished.element (u : Unfinished) : Element := ⟨u.name, u.attributes, u.children.reverse⟩

/-- The elements that are open, innermost first, and the root once it is complete. -/
structure Assembly where
  opened : List Unfinished := []
  root : Option Element := none

def Assembly.step (a : Assembly) : Event → Except Fault Assembly
  | .start name attributes => .ok { a with opened := ⟨name, attributes, []⟩ :: a.opened }
  | .stop position =>
    match a.opened with
    | [] => .error ⟨position, .unbalancedEnd⟩
    | [inner] =>
      match a.root with
      | some _ => .error ⟨position, .secondRoot inner.name⟩
      | none => .ok ⟨[], some inner.element⟩
    | inner :: outer :: opened =>
      .ok { a with opened := { outer with children := inner.element :: outer.children } :: opened }

def Assembly.finish (length : Nat) (a : Assembly) : Except Fault Element :=
  match a.opened, a.root with
  | inner :: _, _ => .error ⟨length, .unclosed inner.name⟩
  | [], some root => .ok root
  | [], none => .error ⟨0, .noRoot⟩

def Reading.tree (reading : Reading) (length : Nat) : Except Fault Element := do
  let assembly ← reading.events.foldlM Assembly.step {}
  match reading.fault with
  | some fault => .error fault
  | none => assembly.finish length

/-- A text without the byte order mark that it may start with. -/
def withoutMark : List Char → List Char
  | '\uFEFF' :: cs => cs
  | cs => cs

def parse (text : String) : Except Fault Element :=
  let cs := withoutMark text.toList
  (Reading.ofText cs).tree (width cs)

end MapTheme.Markup
