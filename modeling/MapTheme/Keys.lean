import Std.Data.TreeMap

/-! Tags with numbered keys. A table numbers the keys it has seen from one, in the
order in which it first saw them, and never renumbers: the names and the index
beside them are inverse to each other by construction. -/
namespace MapTheme

/-- A tag whose key is given by its number. -/
structure Tag where
  key : Nat
  value : String
deriving Repr, DecidableEq

/-- A lookup of the numbers of keys. Map data provides one for a theme to be compiled
against, and knows only the keys that it uses. -/
structure Dictionary where
  id? : String → Option Nat := fun _ => none

theorem empty_index_iff (key : String) (i : Nat) :
    ({} : Std.TreeMap String Nat)[key]? = some i ↔ (#[] : Array String)[i]? = some key := by simp

structure KeyTable where
  names : Array String := #[]
  index : Std.TreeMap String Nat := {}
  index_iff : ∀ (key : String) (i : Nat), index[key]? = some i ↔ names[i]? = some key := by
    exact empty_index_iff

namespace KeyTable

def size (t : KeyTable) : Nat := t.names.size

def id? (t : KeyTable) (key : String) : Option Nat := t.index[key]?.map (· + 1)

instance : Coe KeyTable Dictionary := ⟨fun t => ⟨t.id?⟩⟩

def name? (t : KeyTable) : Nat → Option String
  | 0 => none
  | i + 1 => t.names[i]?

/-- The number of a key, which the table gives it now if it has none. -/
def intern (t : KeyTable) (key : String) : KeyTable × Nat :=
  match h : t.index[key]? with
  | some i => (t, i + 1)
  | none =>
    ({ names := t.names.push key
       index := t.index.insert key t.names.size
       index_iff := by
        have absent : ∀ i, t.names[i]? ≠ some key := fun i hi => by
          rw [(t.index_iff key i).mpr hi] at h
          exact Option.some_ne_none i h
        intro other i
        rw [Std.TreeMap.getElem?_insert, Array.getElem?_push]
        simp only [Std.LawfulEqOrd.compare_eq_iff_eq]
        by_cases same : key = other
        · subst same
          by_cases last : i = t.names.size
          · simp [last]
          · simpa [last, Ne.symm last] using absent i
        · by_cases last : i = t.names.size
          · subst last
            have out : t.index[other]? ≠ some t.names.size := fun found => by
              have := (t.index_iff other _).mp found
              simp at this
            simpa [same] using out
          · simpa [same, last] using t.index_iff other i },
     t.names.size + 1)

def tags (t : KeyTable) : List (String × String) → KeyTable × List Tag
  | [] => (t, [])
  | (key, value) :: pairs =>
    let (t, id) := t.intern key
    let (t, rest) := t.tags pairs
    (t, ⟨id, value⟩ :: rest)

def value? (t : KeyTable) (tags : List Tag) (key : String) : Option String :=
  (t.id? key).bind fun id => (tags.find? (·.key = id)).map (·.value)

theorem id?_eq_some_iff (t : KeyTable) (key : String) (id : Nat) :
    t.id? key = some id ↔ t.name? id = some key := by
  cases id with
  | zero => simp [id?, name?]
  | succ i => simpa [id?, name?] using t.index_iff key i

theorem name?_isSome_iff (t : KeyTable) (id : Nat) :
    (t.name? id).isSome ↔ 1 ≤ id ∧ id ≤ t.size := by
  cases id with
  | zero => simp [name?]
  | succ i =>
    rw [name?, Option.isSome_iff_exists, size]
    constructor
    · intro ⟨key, found⟩
      have := (Array.getElem?_eq_some_iff.mp found).1
      omega
    · intro bounds
      exact ⟨_, Array.getElem?_eq_getElem (by omega)⟩

end KeyTable
end MapTheme
