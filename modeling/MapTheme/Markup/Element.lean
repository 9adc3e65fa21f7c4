/-! The element tree that a document is read into: local names, attributes in the
order written, children in order. Attributes of one name may repeat; the first one
counts. -/
namespace MapTheme

structure Element where
  name : String
  attributes : List (String × String) := []
  children : List Element := []
deriving Repr, BEq, Inhabited

namespace Element

def get? (e : Element) (name : String) : Option String := e.attributes.lookup name

def has (e : Element) (name : String) : Bool := (e.get? name).isSome

def addAttribute (e : Element) (name value : String) : Element :=
  { e with attributes := e.attributes ++ [(name, value)] }

def addChild (e : Element) (child : Element) : Element :=
  { e with children := e.children ++ [child] }

mutual
/-- The elements of a tree in document order, each with its depth. -/
def preorder (depth : Nat) : Element → List (Nat × String × List (String × String))
  | ⟨name, attributes, children⟩ => (depth, name, attributes) :: preorderAll (depth + 1) children

def preorderAll (depth : Nat) : List Element → List (Nat × String × List (String × String))
  | [] => []
  | e :: es => e.preorder depth ++ preorderAll depth es
end

end Element
end MapTheme
