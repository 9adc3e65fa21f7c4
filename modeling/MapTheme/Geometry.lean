/-! What kind of feature a rule is for. Demands of nested rules combine: no demand
gives way to the other one, and two that differ leave nothing. -/
namespace MapTheme

inductive Kind where
  | node
  | way
deriving Repr, DecidableEq

inductive Geometry where
  | any
  | node
  | way
  | never
deriving Repr, DecidableEq

namespace Geometry

def narrow : Geometry → Geometry → Geometry
  | .any, b => b
  | a, .any => a
  | a, b => if a = b then a else .never

def accepts : Geometry → Kind → Bool
  | .any, _ => true
  | .node, kind => kind = .node
  | .way, kind => kind = .way
  | .never, _ => false

def read? : String → Option Geometry
  | "any" => some .any
  | "node" => some .node
  | "way" => some .way
  | _ => none

theorem accepts_narrow (a b : Geometry) (kind : Kind) :
    (a.narrow b).accepts kind = (a.accepts kind && b.accepts kind) := by
  cases a <;> cases b <;> cases kind <;> rfl

end Geometry

inductive Outline where
  | any
  | closed
  | unclosed
  | never
deriving Repr, DecidableEq

namespace Outline

def narrow : Outline → Outline → Outline
  | .any, b => b
  | a, .any => a
  | a, b => if a = b then a else .never

def accepts : Outline → Bool → Bool
  | .any, _ => true
  | .closed, isClosed => isClosed
  | .unclosed, isClosed => !isClosed
  | .never, _ => false

def read? : String → Option Outline
  | "any" => some .any
  | "yes" => some .closed
  | "no" => some .unclosed
  | _ => none

theorem accepts_narrow (a b : Outline) (isClosed : Bool) :
    (a.narrow b).accepts isClosed = (a.accepts isClosed && b.accepts isClosed) := by
  cases a <;> cases b <;> cases isClosed <;> rfl

end Outline
end MapTheme
