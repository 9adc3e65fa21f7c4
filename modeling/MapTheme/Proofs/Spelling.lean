import Mathlib.Data.List.Forall2
import MapTheme.Feature

/-! Tags against the pairs of key and value that they were made from. A table only
ever grows, and a key keeps its number while it does, so tags that spell out some
pairs in one table still do so in every later one. -/
namespace MapTheme
namespace Dictionary

/-- Whether no two keys have the same number. -/
def Apart (d : Dictionary) : Prop :=
  ∀ a b id, d.id? a = some id → d.id? b = some id → a = b

/-- Every key of the earlier dictionary has its number in the later one too. -/
def Extends (later earlier : Dictionary) : Prop :=
  ∀ key id, earlier.id? key = some id → later.id? key = some id

/-- Tags that stand for pairs of key and value, one for one, with the numbers that a dictionary
tells the keys apart by. -/
inductive Spells (d : Dictionary) : List Tag → List (String × String) → Prop
  | nil (apart : d.Apart) : Spells d [] []
  | cons {key value : String} {id : Nat} {tags : List Tag} {pairs : List (String × String)}
      (known : d.id? key = some id) (rest : Spells d tags pairs) :
      Spells d (⟨id, value⟩ :: tags) ((key, value) :: pairs)

theorem Extends.refl (d : Dictionary) : d.Extends d := fun _ _ known => known

theorem Extends.trans {a b c : Dictionary} (cb : c.Extends b) (ba : b.Extends a) : c.Extends a :=
  fun key id known => cb key id (ba key id known)

section
variable {d : Dictionary} {tags : List Tag} {pairs : List (String × String)}
  (spelled : d.Spells tags pairs)
include spelled

theorem Spells.apart : d.Apart := by
  induction spelled with
  | nil apart => exact apart
  | cons _ _ ih => exact ih

theorem Spells.mono {later : Dictionary} (apart : later.Apart) (grown : later.Extends d) :
    later.Spells tags pairs := by
  induction spelled with
  | nil => exact .nil apart
  | cons known rest ih => exact .cons (grown _ _ known) ih

theorem Spells.any_key {key : String} {id : Nat} (known : d.id? key = some id) :
    tags.any (·.key = id) = pairs.any (·.1 = key) := by
  induction spelled with
  | nil => rfl
  | @cons other value number tags pairs found rest ih =>
    have same : number = id ↔ other = key := by
      constructor
      · rintro rfl
        exact rest.apart _ _ _ found known
      · rintro rfl
        exact Option.some.inj (found.symm.trans known)
    simp only [List.any_cons, ih, same]

theorem Spells.any_value (value : String) :
    tags.any (·.value = value) = pairs.any (·.2 = value) := by
  induction spelled with
  | nil => rfl
  | cons found rest ih => simp only [List.any_cons, ih]

theorem Spells.known_of_mem {pair : String × String} (member : pair ∈ pairs) :
    ∃ id, d.id? pair.1 = some id := by
  induction spelled with
  | nil => simp at member
  | cons found rest ih =>
    rcases List.mem_cons.mp member with rfl | inside
    · exact ⟨_, found⟩
    · exact ih inside

theorem Spells.find_value {key : String} {id : Nat} (known : d.id? key = some id) :
    (tags.find? (·.key = id)).map (·.value) = (pairs.find? (·.1 = key)).map (·.2) := by
  induction spelled with
  | nil => rfl
  | @cons other value number tags pairs found rest ih =>
    by_cases same : other = key
    · subst same
      have numbers : number = id := Option.some.inj (found.symm.trans known)
      simp [numbers]
    · have numbers : number ≠ id := fun equal =>
        same (rest.apart _ _ _ (equal ▸ found) known)
      simpa [same, numbers] using ih

end

end Dictionary

namespace KeyTable

abbrev Extends (later earlier : KeyTable) : Prop := Dictionary.Extends later earlier

abbrev Spells (t : KeyTable) : List Tag → List (String × String) → Prop := Dictionary.Spells t

theorem apart (t : KeyTable) : Dictionary.Apart t := by
  intro a b id first second
  have first := (t.id?_eq_some_iff a id).mp first
  have second := (t.id?_eq_some_iff b id).mp second
  exact Option.some.inj (first.symm.trans second)

theorem id?_intern (t : KeyTable) (key : String) :
    (t.intern key).1.id? key = some (t.intern key).2 := by
  unfold intern
  split
  · next i found => simp [id?, found]
  · next absent => simp [id?]

theorem intern_extends (t : KeyTable) (key : String) : (t.intern key).1.Extends t := by
  intro other id known
  unfold intern
  split
  · exact known
  · next absent =>
    obtain ⟨i, found, rfl⟩ := Option.map_eq_some_iff.mp known
    have different : key ≠ other := by
      rintro rfl
      rw [found] at absent
      contradiction
    simp [id?, Std.TreeMap.getElem?_insert, different, found]

theorem intern_known {t : KeyTable} {key : String} {id : Nat} (known : t.id? key = some id) :
    (t.intern key).1 = t := by
  obtain ⟨i, found, rfl⟩ := Option.map_eq_some_iff.mp known
  unfold intern
  split
  · rfl
  · next absent =>
    rw [found] at absent
    contradiction

theorem Spells.mono {later earlier : KeyTable} {tags : List Tag} {pairs : List (String × String)}
    (grown : later.Extends earlier) (spelled : earlier.Spells tags pairs) :
    later.Spells tags pairs := Dictionary.Spells.mono spelled later.apart grown

theorem tags_extends (t : KeyTable) (pairs : List (String × String)) :
    (t.tags pairs).1.Extends t := by
  induction pairs generalizing t with
  | nil => exact Dictionary.Extends.refl t
  | cons pair pairs ih => exact (ih (t.intern pair.1).1).trans (t.intern_extends pair.1)

theorem tags_spell (t : KeyTable) (pairs : List (String × String)) :
    (t.tags pairs).1.Spells (t.tags pairs).2 pairs := by
  induction pairs generalizing t with
  | nil => exact .nil t.apart
  | cons pair pairs ih =>
    have grown := (t.intern pair.1).1.tags_extends pairs
    exact .cons (grown _ _ (t.id?_intern pair.1)) (ih (t.intern pair.1).1)

private theorem tags_known {t : KeyTable} {pairs : List (String × String)}
    (known : ∀ pair ∈ pairs, (t.id? pair.1).isSome) : (t.tags pairs).1 = t := by
  induction pairs with
  | nil => rfl
  | cons pair pairs ih =>
    obtain ⟨id, found⟩ := Option.isSome_iff_exists.mp (known pair (by simp))
    have rest := ih fun p member => known p (by simp [member])
    show ((t.intern pair.1).1.tags pairs).1 = t
    rw [intern_known found, rest]

theorem tags_spell_known {t : KeyTable} {pairs : List (String × String)}
    (known : ∀ pair ∈ pairs, (t.id? pair.1).isSome) : t.Spells (t.tags pairs).2 pairs := by
  have spelled := t.tags_spell pairs
  rwa [tags_known known] at spelled

end KeyTable

theorem internFeatures_extends (t : KeyTable) (ds : List Descriptor) :
    (internFeatures t ds).1.Extends t := by
  induction ds generalizing t with
  | nil => exact Dictionary.Extends.refl t
  | cons d ds ih => exact (ih (t.tags d.tags).1).trans (t.tags_extends d.tags)

/-- A feature as described, with tags that spell out its pairs in a table. -/
def Descriptor.Spelled (t : KeyTable) (d : Descriptor) (f : Feature) : Prop :=
  ∃ tags, f = ⟨d.id, d.kind, d.closed, tags⟩ ∧ t.Spells tags d.tags

/-- Each feature is its description, with tags that spell out its pairs in the table
of all features. -/
theorem internFeatures_spelled (t : KeyTable) (ds : List Descriptor) :
    List.Forall₂ (Descriptor.Spelled (internFeatures t ds).1) ds (internFeatures t ds).2 := by
  induction ds generalizing t with
  | nil => exact .nil
  | cons d ds ih =>
    have spelled := (t.tags_spell d.tags).mono (internFeatures_extends (t.tags d.tags).1 ds)
    exact .cons ⟨_, rfl, spelled⟩ (ih (t.tags d.tags).1)

theorem internFeatures_spell (t : KeyTable) (ds : List Descriptor) {i : Nat} {d : Descriptor}
    (found : ds[i]? = some d) :
    ∃ tags, (internFeatures t ds).2[i]? = some ⟨d.id, d.kind, d.closed, tags⟩ ∧
      (internFeatures t ds).1.Spells tags d.tags := by
  obtain ⟨same, each⟩ := List.forall₂_iff_get.mp (internFeatures_spelled t ds)
  obtain ⟨inside, rfl⟩ := List.getElem?_eq_some_iff.mp found
  obtain ⟨tags, made, spelled⟩ := each i inside (same ▸ inside)
  exact ⟨tags, List.getElem?_eq_some_iff.mpr ⟨_, made⟩, spelled⟩

end MapTheme
