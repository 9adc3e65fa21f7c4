import MapTheme.Proofs.Alternatives
import MapTheme.Proofs.Reading

/-! How keys get their numbers. Whatever a table has been asked for, the numbers that it has
given out are those from one up to its size, one for each key that it has seen; and since no
later request changes any of them, the tags of a feature can be read back at any time. -/
namespace MapTheme

namespace Ordered

variable {α : Type}

private theorem mem_insert {name : String} {value : α} {entries : List (String × α)}
    {entry : String × α}
    (member : entry ∈ insert name value entries) : entry = (name, value) ∨ entry ∈ entries := by
  induction entries with
  | nil => exact .inl (List.mem_singleton.mp member)
  | cons first rest ih =>
    rw [insert] at member
    split at member
    · exact List.mem_cons.mp member
    · split at member
      · exact (List.mem_cons.mp member).imp_right (List.mem_cons_of_mem _)
      · rcases List.mem_cons.mp member with rfl | inside
        · exact .inr List.mem_cons_self
        · exact (ih inside).imp_right (List.mem_cons_of_mem _)

private theorem insert_sorted (name : String) (value : α) {entries : List (String × α)}
    (sorted : entries.Pairwise (·.1 < ·.1)) : (insert name value entries).Pairwise (·.1 < ·.1) := by
  induction entries with
  | nil => exact List.pairwise_singleton _ _
  | cons first rest ih =>
    obtain ⟨least, others⟩ := List.pairwise_cons.mp sorted
    rw [insert]
    split
    · next below =>
      refine List.pairwise_cons.mpr ⟨fun entry member => ?_, sorted⟩
      rcases List.mem_cons.mp member with rfl | inside
      · exact below
      · exact String.lt_trans below (least entry inside)
    · next notBelow =>
      split
      · next same =>
        subst same
        exact List.pairwise_cons.mpr ⟨least, others⟩
      · next different =>
        have above : first.1 < name := by
          rcases Std.lt_trichotomy name first.1 with less | equal | greater
          · exact absurd less notBelow
          · exact absurd equal different
          · exact greater
        refine List.pairwise_cons.mpr ⟨fun entry member => ?_, ih others⟩
        rcases mem_insert member with rfl | inside
        · exact above
        · exact least entry inside

private theorem ofEntries_sorted (entries : List (String × α)) :
    (ofEntries entries).Pairwise (·.1 < ·.1) := by
  have run (kept : List (String × α)) (sorted : kept.Pairwise (·.1 < ·.1)) :
      (entries.foldl (fun kept entry => insert entry.1 entry.2 kept) kept).Pairwise
        (·.1 < ·.1) := by
    induction entries generalizing kept with
    | nil => exact sorted
    | cons entry entries ih => exact ih _ (insert_sorted entry.1 entry.2 sorted)
  exact run [] .nil

end Ordered

namespace Descriptor

private theorem tags?_sorted {raw : Json.Raw} {tags : List (String × String)}
    (read : tags? raw = some tags) :
    tags.Pairwise (·.1 < ·.1) := by
  cases raw with
  | object members =>
    obtain ⟨entries, _, rfl⟩ := Option.map_eq_some_iff.mp read
    exact Ordered.ofEntries_sorted entries
  | _ => contradiction

private theorem ofParts_sorted {id kind closed tags : List Json.Raw} {d : Descriptor}
    (read : ofParts id kind closed tags = some d) : d.tags.Pairwise (·.1 < ·.1) := by
  simp only [ofParts, Option.bind_eq_bind, Option.bind_eq_some_iff, Option.some.injEq] at read
  obtain ⟨_, _, _, _, _, _, pairs, given, rfl⟩ := read
  rcases tags with _ | ⟨raw, _ | ⟨_, _⟩⟩
  · obtain rfl : [] = pairs := Option.some.inj given
    exact .nil
  · exact tags?_sorted given
  · contradiction

theorem ofLine?_sorted {line : List UInt8} {d : Descriptor} (read : ofLine? line = some d) :
    d.tags.Pairwise (·.1 < ·.1) := by
  obtain ⟨text, _, described⟩ := Option.bind_eq_some_iff.mp read
  obtain ⟨raw, _, described⟩ := Option.bind_eq_some_iff.mp described
  unfold ofRaw? at described
  split at described
  · obtain ⟨members, _, parts⟩ := Option.bind_eq_some_iff.mp described
    exact ofParts_sorted parts
  · exact ofParts_sorted described
  · exact ofParts_sorted described
  · exact ofParts_sorted described
  · contradiction

end Descriptor

namespace KeyTable

inductive Request where
  | intern (key : String)
  | tags (pairs : List (String × String))

namespace Request

def keys : Request → List String
  | .intern key => [key]
  | .tags pairs => pairs.map (·.1)

/-- The table that a request leaves, and the numbers that it is answered with. -/
def answer (t : KeyTable) : Request → KeyTable × List Nat
  | .intern key => ((t.intern key).1, [(t.intern key).2])
  | .tags pairs => ((t.tags pairs).1, (t.tags pairs).2.map (·.key))

end Request

/-- The table that a run of requests leaves, and all numbers that it has given out. -/
def run (t : KeyTable) : List Request → KeyTable × List Nat
  | [] => (t, [])
  | request :: requests =>
    let (t, numbers) := request.answer t
    let (t, others) := t.run requests
    (t, numbers ++ others)

variable {t : KeyTable} {tags : List Tag} {pairs : List (String × String)}

private theorem intern_number {key : String} {id : Nat} (known : t.id? key = some id) :
    t.intern key = (t, id) := by
  have same : (t.intern key).1 = t := intern_known known
  have number : (t.intern key).1.id? key = some (t.intern key).2 := t.id?_intern key
  rw [same, known] at number
  exact Prod.ext same (Option.some.inj number).symm

private theorem id?_intern_isSome (t : KeyTable) (key other : String) :
    ((t.intern key).1.id? other).isSome = true ↔ (t.id? other).isSome = true ∨ other = key := by
  by_cases same : other = key
  · subst same
    simp [id?_intern]
  · unfold intern
    split
    · simp [same]
    · have ne : key ≠ other := fun equal => same equal.symm
      simp [id?, Std.TreeMap.getElem?_insert, ne, same]

private theorem id?_grow_isSome (t : KeyTable) (keys : List String) (key : String) :
    ((t.grow keys).id? key).isSome = true ↔ (t.id? key).isSome = true ∨ key ∈ keys := by
  induction keys generalizing t with
  | nil => simp [grow]
  | cons first keys ih =>
    have step : t.grow (first :: keys) = (t.intern first).1.grow keys := rfl
    rw [step, ih, id?_intern_isSome, List.mem_cons, or_assoc]

private theorem tags_grow (t : KeyTable) (pairs : List (String × String)) :
    (t.tags pairs).1 = t.grow (pairs.map (·.1)) := by
  induction pairs generalizing t with
  | nil => rfl
  | cons pair pairs ih => exact ih (t.intern pair.1).1

private theorem answer_grow (t : KeyTable) (request : Request) :
    (request.answer t).1 = t.grow request.keys := by
  cases request with
  | intern key => rfl
  | tags pairs => exact t.tags_grow pairs

private theorem grow_append (t : KeyTable) (keys others : List String) :
    t.grow (keys ++ others) = (t.grow keys).grow others := List.foldl_append

theorem run_grow (t : KeyTable) (requests : List Request) :
    (t.run requests).1 = t.grow (requests.flatMap Request.keys) := by
  induction requests generalizing t with
  | nil => rfl
  | cons request requests ih =>
    show ((request.answer t).1.run requests).1 = _
    rw [ih, answer_grow, List.flatMap_cons, grow_append]

theorem run_extends (t : KeyTable) (requests : List Request) : (t.run requests).1.Extends t := by
  rw [run_grow]
  exact t.grow_extends _

theorem Spells.numbers (spelled : t.Spells tags pairs) :
    List.Forall₂ (fun key id => t.id? key = some id) (pairs.map (·.1)) (tags.map (·.key)) := by
  induction spelled with
  | nil => exact .nil
  | cons known _ ih => exact .cons known ih

private theorem answer_numbers (t : KeyTable) (request : Request) :
    List.Forall₂ (fun key id => (request.answer t).1.id? key = some id) request.keys
      (request.answer t).2 := by
  cases request with
  | intern key => exact .cons (t.id?_intern key) .nil
  | tags pairs => exact (t.tags_spell pairs).numbers

/-- A run has given out the numbers that the keys asked for have at its end. -/
theorem run_numbers (t : KeyTable) (requests : List Request) :
    List.Forall₂ (fun key id => (t.run requests).1.id? key = some id)
      (requests.flatMap Request.keys) (t.run requests).2 := by
  induction requests generalizing t with
  | nil => exact .nil
  | cons request requests ih =>
    have now := t.answer_numbers request
    -- The numbers given out now are those at the end, as no later request renumbers a key.
    have grown := (request.answer t).1.run_extends requests
    exact List.rel_append (now.imp fun key id known => grown key id known) (ih _)

private theorem Spells.read_back (spelled : t.Spells tags pairs) :
    tags.map (fun tag => (t.name? tag.key, tag.value)) =
      pairs.map fun pair => (some pair.1, pair.2) := by
  induction spelled with
  | nil => rfl
  | cons known _ ih => rw [List.map_cons, List.map_cons, ih, (t.id?_eq_some_iff _ _).mp known]

theorem Spells.value (spelled : t.Spells tags pairs) (key : String) :
    t.value? tags key = (pairs.find? (·.1 = key)).map (·.2) := by
  cases known : t.id? key with
  | some id => rw [value?, known, Option.bind_some, spelled.find_value known]
  | none =>
    have absent : pairs.find? (·.1 = key) = none := by
      refine List.find?_eq_none.mpr fun pair member same => ?_
      obtain ⟨id, found⟩ : ∃ id, t.id? pair.1 = some id := spelled.known_of_mem member
      rw [of_decide_eq_true same, known] at found
      contradiction
    rw [value?, known, absent]
    rfl

private theorem value?_eq_find (t : KeyTable) (tags : List Tag) (key : String) :
    t.value? tags key = (tags.find? fun tag => t.name? tag.key = some key).map (·.value) := by
  cases known : t.id? key with
  | some id =>
    have same : (fun tag : Tag => decide (tag.key = id)) =
        fun tag => decide (t.name? tag.key = some key) := by
      funext tag
      rw [decide_eq_decide, ← t.id?_eq_some_iff, known, Option.some.injEq, eq_comm]
    rw [value?, known, Option.bind_some, same]
  | none =>
    have absent : (tags.find? fun tag => t.name? tag.key = some key) = none := by
      apply List.find?_eq_none.mpr
      intro tag _ named
      have found := (t.id?_eq_some_iff key tag.key).mpr (of_decide_eq_true named)
      rw [known] at found
      contradiction
    rw [value?, known, absent]
    rfl

/-- Keys are numbered from one without a gap, each once and for good. So what has become of
the tags of a feature can be read as they were described, in the order of their keys,
whatever else the table has numbered by then. -/
theorem keys_numbered (requests : List Request) :
    let t := (({} : KeyTable).run requests).1
    let issued := (({} : KeyTable).run requests).2
    (∀ id, id ∈ issued ↔ 1 ≤ id ∧ id ≤ t.size) ∧
    (∀ key id, t.id? key = some id ↔ t.name? id = some key) ∧
    (∀ key, (t.id? key).isSome = true ↔ ∃ request ∈ requests, key ∈ request.keys) ∧
    (∀ key id, t.id? key = some id → t.intern key = (t, id)) ∧
    (∀ key other id, t.id? other = some id → (t.intern key).1.id? other = some id) ∧
    (∀ tags key, t.value? tags key =
      (tags.find? fun tag => t.name? tag.key = some key).map (·.value)) ∧
    (∀ (descriptors : List Descriptor) (later : List Request),
      let table := ((internFeatures t descriptors).1.run later).1
      List.Forall₂ (fun d f =>
          f.tags.map (fun tag => (table.name? tag.key, tag.value)) =
            d.tags.map (fun pair => (some pair.1, pair.2)) ∧
          ∀ key, table.value? f.tags key = (d.tags.find? (·.1 = key)).map (·.2))
        descriptors (internFeatures t descriptors).2) ∧
    ∀ line d, Descriptor.ofLine? line = some d → d.tags.Pairwise (·.1 < ·.1) := by
  intro t issued
  have numbered : List.Forall₂ (fun key id => t.id? key = some id)
      (requests.flatMap Request.keys) issued := run_numbers {} requests
  have asked (key : String) :
      (t.id? key).isSome = true ↔ key ∈ requests.flatMap Request.keys := by
    have grown : t = ({} : KeyTable).grow (requests.flatMap Request.keys) := run_grow {} requests
    rw [grown, id?_grow_isSome]
    simp [id?]
  refine ⟨fun id => ?_, t.id?_eq_some_iff, fun key => ?_, fun key id => intern_number,
    fun key other id => t.intern_extends key other id, t.value?_eq_find, fun descriptors later => ?_,
    fun line d => Descriptor.ofLine?_sorted⟩
  · -- A number is issued just where a key that was asked for has it in the end.
    have mapped : (requests.flatMap Request.keys).map t.id? = issued.map some := by
      rw [← List.forall₂_eq_eq_eq]
      exact List.forall₂_map_left_iff.mpr (List.forall₂_map_right_iff.mpr numbered)
    have given : id ∈ issued ↔ ∃ key ∈ requests.flatMap Request.keys, t.id? key = some id := by
      rw [← List.mem_map, mapped, List.mem_map]
      simp
    rw [given, ← t.name?_isSome_iff, Option.isSome_iff_exists]
    constructor
    · rintro ⟨key, _, known⟩
      exact ⟨key, (t.id?_eq_some_iff key id).mp known⟩
    · rintro ⟨key, named⟩
      have known : t.id? key = some id := (t.id?_eq_some_iff key id).mpr named
      exact ⟨key, (asked key).mp (Option.isSome_iff_exists.mpr ⟨id, known⟩), known⟩
  · rw [asked, List.mem_flatMap]
  · have spelled := internFeatures_spelled t descriptors
    refine spelled.imp ?_
    rintro d f ⟨tags, rfl, spells⟩
    have still := spells.mono ((internFeatures t descriptors).1.run_extends later)
    exact ⟨still.read_back, still.value⟩

def laneRequests : List Request :=
  [.intern "highway", .tags [("name", "Mill Lane"), ("highway", "path")], .intern "name"]

def laneLine : List UInt8 :=
  "\x7b\"type\":\"way\",\"tags\":\x7b\"surface\":\"mud\",\"name\":\"Mill Lane\"\x7d\x7d".toUTF8.toList

/-- The line has a key that is new, and that comes last among its keys. -/
theorem lane_numbered :
    let t := (({} : KeyTable).run laneRequests).1
    (({} : KeyTable).run laneRequests).2 = [1, 2, 1, 2] ∧ t.size = 2 ∧ t.intern "name" = (t, 2) ∧
      (t.intern "surface").1.id? "name" = some 2 ∧
      ∃ d, Descriptor.ofLine? laneLine = some d ∧ d.tags.Pairwise (·.1 < ·.1) ∧
        (internFeatures t [d]).2.map (·.tags) = [[⟨2, "Mill Lane"⟩, ⟨3, "mud"⟩]] := by
  intro t
  obtain ⟨_, _, _, again, kept, _, _, ordered⟩ := keys_numbered laneRequests
  have known : t.id? "name" = some 2 := by decide +kernel
  have tags : (Descriptor.ofLine? laneLine).map (·.tags) =
      some [("name", "Mill Lane"), ("surface", "mud")] := by decide +kernel
  obtain ⟨d, read, listed⟩ := Option.map_eq_some_iff.mp tags
  refine ⟨by decide +kernel, by decide +kernel, again _ _ known, kept "surface" _ _ known, d, read,
    ordered _ d read, ?_⟩
  have numbered : (internFeatures t [d]).2.map (·.tags) = [(t.tags d.tags).2] := rfl
  rw [numbered, listed]
  decide +kernel

end KeyTable
end MapTheme
