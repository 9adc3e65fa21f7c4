import MapTheme.Proofs.Admission

/-! Filters against the lists that they are written as. A filter that was read with a table
says of tags, numbered in whatever the table has grown into by then, what its alternatives say
of the tags as written. Alternatives that the table did not know are missed by no tags whose
keys it knew. -/
namespace MapTheme
namespace KeyTable

/-- The table once it has seen some more keys. -/
def grow (t : KeyTable) (keys : List String) : KeyTable :=
  keys.foldl (fun t key => (t.intern key).1) t

theorem grow_extends (t : KeyTable) (keys : List String) : (t.grow keys).Extends t := by
  induction keys generalizing t with
  | nil => exact .refl t
  | cons key keys ih => exact (ih (t.intern key).1).trans (t.intern_extends key)

end KeyTable

/-- What two lists of alternatives, separated by bars, are made up of. A value that is a tilde
negates, and is no alternative. -/
structure Alternatives where
  keys : List String
  values : List String
  negated : Bool

namespace Alternatives

def ofText (keys values : String) : Alternatives :=
  { keys := Text.splitText '|' keys
    values := (Text.splitText '|' values).filter (· ≠ "~")
    negated := (Text.splitText '|' values).contains "~" }

variable (a : Alternatives) (known : String → Prop) (tags : List (String × String))

def KeyHit : Prop := "*" ∈ a.keys ∨ ∃ tag ∈ tags, tag.1 ∈ a.keys ∧ known tag.1

def ValueHit : Prop := "*" ∈ a.values ∨ ∃ tag ∈ tags, tag.2 ∈ a.values

/-- Whether tags meet the alternatives, of which a key counts only where it is known. -/
def Meet : Prop :=
  if a.negated then ¬ a.KeyHit known tags ∨ a.ValueHit tags
  else a.KeyHit known tags ∧ a.ValueHit tags

variable {known} {tags}

private theorem meets_iff {isKnown : String → Bool} (same : ∀ key, isKnown key = true ↔ known key)
    (keys values : String) :
    meets isKnown (Text.splitText '|' keys) (Text.splitText '|' values) tags = true ↔
      (ofText keys values).Meet known tags := by
  have keyHit : ((Text.splitText '|' keys).contains "*" ||
      tags.any fun tag => isKnown tag.1 && (Text.splitText '|' keys).contains tag.1) = true ↔
        (ofText keys values).KeyHit known tags := by
    simp [KeyHit, ofText, same, and_comm]
  have valueHit : ((Text.splitText '|' values).contains "*" ||
      tags.any fun tag => tag.2 ≠ "~" && (Text.splitText '|' values).contains tag.2) = true ↔
        (ofText keys values).ValueHit tags := by
    simp [ValueHit, ofText, and_comm]
  rw [Meet, ← keyHit, ← valueHit, meets]
  cases negated : (Text.splitText '|' values).contains "~" with
  | false =>
    have positive : (ofText keys values).negated = false := negated
    simp only [positive, Bool.false_eq_true, if_false, Bool.and_eq_true]
  | true =>
    have negative : (ofText keys values).negated = true := negated
    simp only [negative, if_true, Bool.or_eq_true, Bool.not_eq_true', ← Bool.not_eq_true]

private theorem meet_of_known (all : ∀ tag ∈ tags, known tag.1) :
    a.Meet known tags ↔ a.Meet (fun _ => True) tags := by
  have hits : a.KeyHit known tags ↔ a.KeyHit (fun _ => True) tags := by
    refine or_congr_right (exists_congr fun tag => and_congr_right fun member => ?_)
    simp [all tag member]
  rw [Meet, Meet, hits]

end Alternatives

namespace TagFilter

/-- A filter agrees with its text in all that its table grows into. -/
theorem accepts_written (t : KeyTable) (later : List String) (keys values : String)
    (pairs : List (String × String)) :
    let alternatives := Alternatives.ofText keys values
    let known (key : String) : Prop := ∃ id, t.id? key = some id
    let numbered := (t.grow later).tags pairs
    ((parse t keys values).accepts numbered.2 = true ↔ alternatives.Meet known pairs) ∧
    ((∀ pair ∈ pairs, known pair.1) →
      ((parse t keys values).accepts numbered.2 = true ↔
        alternatives.Meet (fun _ => True) pairs) ∧
      ∀ more, (parse (numbered.1.grow more) keys values).accepts numbered.2 =
        (parse t keys values).accepts numbered.2) ∧
    ∀ (f : TagFilter) (tags : List Tag), f.isTautology = true → f.accepts tags = true := by
  intro alternatives known numbered
  have grown : numbered.1.Extends t := ((t.grow later).tags_extends pairs).trans (t.grow_extends later)
  have spelled : numbered.1.Spells numbered.2 pairs := (t.grow later).tags_spell pairs
  have agrees : (parse t keys values).accepts numbered.2 = true ↔ alternatives.Meet known pairs := by
    rw [accepts_parse grown spelled]
    exact Alternatives.meets_iff (fun key => Option.isSome_iff_exists) keys values
  refine ⟨agrees, fun all => ⟨agrees.trans (alternatives.meet_of_known all), fun more => ?_⟩,
    fun f tags visible => accepts_of_isTautology visible tags⟩
  have furthest : (numbered.1.grow more).Extends numbered.1 := numbered.1.grow_extends more
  have knownThen : ∀ pair ∈ pairs, ((numbered.1.grow more).id? pair.1).isSome = true :=
    fun pair member => by
      obtain ⟨id, found⟩ := all pair member
      exact Option.isSome_iff_exists.mpr ⟨id, furthest _ _ (grown _ _ found)⟩
  have knownNow : ∀ pair ∈ pairs, (t.id? pair.1).isSome = true := fun pair member =>
    Option.isSome_iff_exists.mpr (all pair member)
  -- Where all keys are known, a filter lost none of its alternatives that could have hit.
  calc (parse (numbered.1.grow more) keys values).accepts numbered.2
    _ = meets (fun key => ((numbered.1.grow more).id? key).isSome) (Text.splitText '|' keys)
          (Text.splitText '|' values) pairs :=
        accepts_parse (.refl _) (spelled.mono furthest) keys values
    _ = meets (fun _ => true) (Text.splitText '|' keys) (Text.splitText '|' values) pairs :=
        meets_of_known knownThen _ _
    _ = meets (fun key => (t.id? key).isSome) (Text.splitText '|' keys)
          (Text.splitText '|' values) pairs := (meets_of_known knownNow _ _).symm
    _ = (parse t keys values).accepts numbered.2 := (accepts_parse grown spelled keys values).symm

def tunnelKeys : KeyTable := KeyTable.grow {} ["highway", "tunnel"]

/-- Of the keys that may not be there, the one for railways is unknown when the filter is
read. -/
theorem tunnel_written :
    let tags := ((tunnelKeys.grow ["name"]).tags [("highway", "service"), ("tunnel", "yes")]).2
    (∀ pair ∈ [("highway", "service"), ("tunnel", "yes")], ∃ id, tunnelKeys.id? pair.1 = some id) ∧
      (parse tunnelKeys "tunnel|railway" "~|no").keys = [.key 2] ∧
      (parse tunnelKeys "tunnel|railway" "~|no").accepts tags = false ∧
      ¬ (Alternatives.ofText "tunnel|railway" "~|no").Meet (fun _ => True)
        [("highway", "service"), ("tunnel", "yes")] ∧
      (parse tunnelKeys "*" "~|*|no|*").isTautology = false ∧
      (parse tunnelKeys "railway|*" "no|*").accepts tags = true := by
  intro tags
  have known : ∀ pair ∈ [("highway", "service"), ("tunnel", "yes")],
      ∃ id, tunnelKeys.id? pair.1 = some id := fun pair member =>
    Option.isSome_iff_exists.mp (by revert pair; decide +kernel)
  obtain ⟨_, whole, visible⟩ := accepts_written tunnelKeys ["name"] "tunnel|railway" "~|no"
    [("highway", "service"), ("tunnel", "yes")]
  have rejected : (parse tunnelKeys "tunnel|railway" "~|no").accepts tags = false := by
    decide +kernel
  refine ⟨known, by decide +kernel, rejected, fun met => ?_, by decide +kernel, ?_⟩
  · have accepted := (whole known).1.mpr met
    exact absurd accepted (by rw [rejected]; decide)
  · exact visible _ tags (by decide +kernel)

end TagFilter
end MapTheme
