import MapTheme.Drawing
import MapTheme.Selector

/-! Where the instructions of a load are kept. They are got at by handles, and a handle
of another load than the one that the arena is for names nothing. -/
namespace MapTheme

/-- `index` is the place among all instructions of a theme, and `generation` the load. -/
@[ext] structure Handle where
  index : Nat
  generation : Nat
deriving Repr, DecidableEq

/-- `order` is the number of a path or circle, and the priority of anything else. -/
structure Instruction where
  selector : Selector
  drawing : Drawing
  order : Int

structure Placed (α : Type) extends Handle where
  selector : Selector
  order : Int
  drawing : α

structure Arena where
  generation : Nat := 0
  instructions : Array Instruction := #[]

namespace Arena

def push (a : Arena) (i : Instruction) : Arena × Handle :=
  ({ a with instructions := a.instructions.push i }, ⟨a.instructions.size, a.generation⟩)

def get? (a : Arena) (h : Handle) : Option Instruction :=
  if h.generation = a.generation then a.instructions[h.index]? else none

/-- What handles are sorted by. One that names nothing would come last. -/
def sortKey (a : Arena) (h : Handle) : Int := (a.get? h).elim 0x7fffffffffffffff (·.order)

/-- What handles name, as far as it is kept and of the kind asked for. -/
def select {α : Type} (a : Arena) (handles : List Handle) (project : Drawing → Option α)
    (keep : Selector → Bool) : List (Placed α) :=
  handles.filterMap fun h => (a.get? h).bind fun i =>
    if keep i.selector then
      (project i.drawing).map fun drawing => ⟨h, i.selector, i.order, drawing⟩
    else none

def isEmpty (a : Arena) : Bool := a.instructions.isEmpty

end Arena
end MapTheme
